import Highlight.Disk
import Highlight.Error
import Highlight.Log

/-!
What a run needs from its surroundings: files, and somewhere to report. `Session.host` keeps both as
plain data.
-/

namespace Highlight

/-- Operations on files; those that change something say whether they succeeded. -/
structure Host (m : Type → Type) where
  read : (path : Text) → m (Except PathFault Text)
  makeDirectories : (path : Text) → m Bool
  write : (path contents : Text) → m Bool
  rename : (source target : Text) → m Bool
  remove : (path : Text) → m Unit
  report : Log.Entry → m Unit

namespace Host

variable {m : Type → Type} [Monad m]

/-- The host that reports no more than a level lets through. -/
def upTo (host : Host m) (level : Log.Level) : Host m :=
  { host with report := fun entry => if entry.isShown level then host.report entry else pure () }

def reportAll (host : Host m) : List Log.Entry → m Unit
  | [] => pure ()
  | entry :: entries => do
    host.report entry
    host.reportAll entries

/-- Reads a file that has to be there; the error for a missing one names it. -/
def readInput (host : Host m) (path : Text) : ExceptT Error m Text := do
  match ← host.read path with
  | .ok text => return text
  | .error .missing => throw (.inputNotFound path)
  | .error .unusable => throw .inputOutput

end Host

structure Session where
  disk : Disk
  log : List Log.Entry := []

namespace Session

def change (act : Disk → Option Disk) : StateM Session Bool := do
  let session ← get
  match act session.disk with
  | some disk =>
    set { session with disk := disk }
    return true
  | none => return false

def host : Host (StateM Session) where
  read path := return (← get).disk.read path
  makeDirectories path := do
    let session ← get
    let (disk, made) := session.disk.makeDirectories path
    set { session with disk := disk }
    return made
  write path contents := change (·.write path contents)
  rename source target := change (·.rename source target)
  remove path := modify fun session => { session with disk := session.disk.remove path }
  report entry := modify fun session => { session with log := session.log ++ [entry] }

end Session
end Highlight
