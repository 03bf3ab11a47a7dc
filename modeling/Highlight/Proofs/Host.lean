import Highlight.Host
import Highlight.Proofs.Disk.Files
import Highlight.Proofs.Disk.Growth

/-!
Actions on a host, and what a run may rely on. `outcome` is what an action comes to; what is known
of a sequence of actions follows from its equation for a bind. A reliable host may refuse anything
at any time and may stop a write half way, but it renames all or nothing and removes a file that is
there.
-/

namespace Highlight

variable {σ α β : Type} {s s' : σ}

/-- What an action comes to when it starts in a state, and the state that it leaves. -/
def outcome (act : ExceptT Error (StateM σ) α) (s : σ) : Except Error α × σ := act.run.run s

theorem Host.read_upTo (host : Host (StateM σ)) (level : Log.Level) :
    (host.upTo level).read = host.read := rfl

theorem outcome_throw (e : Error) (s : σ) :
    outcome (throw e : ExceptT Error (StateM σ) α) s = (.error e, s) := rfl

theorem outcome_lift (act : StateM σ α) (s : σ) :
    outcome (liftM act) s = (.ok (act s).1, (act s).2) := rfl

theorem outcome_liftExcept (value : Except Error α) (s : σ) :
    outcome (liftM value) s = (value, s) := rfl

theorem outcome_bind (act : ExceptT Error (StateM σ) α) (next : α → ExceptT Error (StateM σ) β)
    (s : σ) : outcome (act >>= next) s =
      match outcome act s with
      | (.ok a, s') => outcome (next a) s'
      | (.error e, s') => (.error e, s') := by
  change (match outcome act s with
    | (result, s') => (ExceptT.bindCont next result) s') = _
  rcases outcome act s with ⟨_ | _, _⟩ <;> rfl

theorem outcome_lift_bind (act : StateM σ α) (next : α → ExceptT Error (StateM σ) β) (s : σ) :
    outcome (liftM act >>= next) s = outcome (next (act s).1) (act s).2 := by
  rw [outcome_bind, outcome_lift]

theorem outcome_throw_bind (e : Error) (next : α → ExceptT Error (StateM σ) β) (s : σ) :
    outcome (throw e >>= next) s = (.error e, s) := by
  rw [outcome_bind, outcome_throw]

theorem outcome_ok_bind (a : α) (next : α → ExceptT Error (StateM σ) β) (s : σ) :
    outcome (liftM (.ok a : Except Error α) >>= next) s = outcome (next a) s := by
  rw [outcome_bind, outcome_liftExcept]

theorem outcome_error_bind (e : Error) (next : α → ExceptT Error (StateM σ) β) (s : σ) :
    outcome (liftM (.error e : Except Error α) >>= next) s = (.error e, s) := by
  rw [outcome_bind, outcome_liftExcept]

theorem outcome_adapt (f : Error → Error) (act : ExceptT Error (StateM σ) α) (s : σ) :
    outcome (ExceptT.adapt f act) s = ((outcome act s).1.mapError f, (outcome act s).2) := rfl

/-- What a run relies on, whatever is refused: what succeeds has been done, a failed write has left
a part of the file at most, a failed renaming nothing, and removing never fails on a file. -/
structure Host.Reliable (host : Host (StateM σ)) (disk : σ → Disk) : Prop where
  read {path : Text} {s s' : σ} {answer : Except PathFault Text}
    (h : host.read path s = (answer, s')) :
    disk s' = disk s ∧ ∀ text, answer = .ok text → (disk s).read path = .ok text
  makeDirectories {path : Text} {s s' : σ} {made : Bool}
    (h : host.makeDirectories path s = (made, s')) : Disk.Grows [path] (disk s) (disk s')
  write {path contents : Text} {s s' : σ} (h : host.write path contents s = (true, s')) :
    (disk s).write path contents = some (disk s')
  write_failed {path contents : Text} {s s' : σ} (h : host.write path contents s = (false, s')) :
    disk s' = disk s ∨ ∃ place part, (disk s).locate path = .ok place ∧
      ¬(disk s).IsDirectory place ∧ disk s' = (disk s).put place (.file part)
  rename {source target : Text} {s s' : σ} (h : host.rename source target s = (true, s')) :
    (disk s).rename source target = some (disk s')
  rename_failed {source target : Text} {s s' : σ} (h : host.rename source target s = (false, s')) :
    disk s' = disk s
  remove {path : Text} {s s' : σ} (h : host.remove path s = ((), s')) :
    disk s' = (disk s).remove path
  report {entry : Log.Entry} {s s' : σ} (h : host.report entry s = ((), s')) : disk s' = disk s

namespace Session

theorem change_of_some (act : Disk → Option Disk) {session : Session} {disk : Disk}
    (h : act session.disk = some disk) :
    change act session = (true, { session with disk := disk }) := by
  simp only [change, bind, StateT.bind, get, getThe, MonadStateOf.get, StateT.get, pure, h]
  rfl

theorem change_of_none {act : Disk → Option Disk} {session : Session}
    (h : act session.disk = none) : change act session = (false, session) := by
  simp only [change, bind, StateT.bind, get, getThe, MonadStateOf.get, StateT.get, pure, h]
  rfl

theorem change_cases (act : Disk → Option Disk) {session session' : Session} {done : Bool}
    (h : change act session = (done, session')) :
    done = true ∧ act session.disk = some session'.disk ∨ done = false ∧ session' = session := by
  cases hact : act session.disk with
  | none =>
      cases (change_of_none hact).symm.trans h
      exact .inr ⟨rfl, rfl⟩
  | some disk =>
      cases (change_of_some act hact).symm.trans h
      exact .inl ⟨rfl, rfl⟩

theorem write_host {path contents : Text} {session : Session} {disk : Disk}
    (h : session.disk.write path contents = some disk) :
    host.write path contents session = (true, { session with disk := disk }) :=
  change_of_some (·.write path contents) h

theorem rename_host {source target : Text} {session : Session} {disk : Disk}
    (h : session.disk.rename source target = some disk) :
    host.rename source target session = (true, { session with disk := disk }) :=
  change_of_some (·.rename source target) h

theorem makeDirectories_host {path : Text} {session : Session} {disk : Disk} {made : Bool}
    (h : session.disk.makeDirectories path = (disk, made)) :
    host.makeDirectories path session = (made, { session with disk := disk }) := by
  change ((session.disk.makeDirectories path).2,
    { session with disk := (session.disk.makeDirectories path).1 }) = _
  rw [h]

theorem makeDirectories_of_host {path : Text} {session session' : Session} {made : Bool}
    (h : host.makeDirectories path session = (made, session')) :
    session.disk.makeDirectories path = (session'.disk, made) := by
  cases h
  rfl

/-- The host that keeps a tree as plain data is reliable. -/
theorem reliable_host : host.Reliable Session.disk where
  read h := by
    cases h
    exact ⟨rfl, fun _ h => h⟩
  makeDirectories h := by
    cases h
    exact Disk.grows_makeDirectories _ _
  write {path contents _ _} h := by
    rcases change_cases (·.write path contents) h with ⟨-, h⟩ | ⟨h, -⟩
    · exact h
    · cases h
  write_failed {path contents _ _} h := by
    rcases change_cases (·.write path contents) h with ⟨h, -⟩ | ⟨-, rfl⟩
    · cases h
    · exact .inl rfl
  rename {source target _ _} h := by
    rcases change_cases (·.rename source target) h with ⟨-, h⟩ | ⟨h, -⟩
    · exact h
    · cases h
  rename_failed {source target _ _} h := by
    rcases change_cases (·.rename source target) h with ⟨h, -⟩ | ⟨-, rfl⟩
    · cases h
    · rfl
  remove h := by
    cases h
    rfl
  report h := by
    cases h
    rfl

def cramped (room : Nat) : Host (StateM Session) :=
  { host with
    write := fun path contents => do
      let written ← host.write path (contents.take room)
      return written && contents.length ≤ room }

theorem cramped_write (room : Nat) (path contents : Text) (session : Session) :
    (cramped room).write path contents session =
      ((host.write path (contents.take room) session).1 && decide (contents.length ≤ room),
        (host.write path (contents.take room) session).2) := rfl

theorem reliable_cramped (room : Nat) : (cramped room).Reliable Session.disk :=
  { reliable_host with
    write := fun {path contents session session'} h => by
      rw [cramped_write] at h
      obtain ⟨hdone, rfl⟩ := Prod.mk.inj h
      obtain ⟨hwritten, hshort⟩ := (Bool.and_eq_true _ _).mp hdone
      rw [List.take_of_length_le (of_decide_eq_true hshort)] at hwritten ⊢
      exact reliable_host.write (Prod.ext hwritten rfl)
    write_failed := fun {path contents session session'} h => by
      rw [cramped_write] at h
      obtain ⟨-, rfl⟩ := Prod.mk.inj h
      cases hwrite : host.write path (contents.take room) session with
      | mk written session' =>
          cases written with
          | false => exact reliable_host.write_failed hwrite
          | true =>
              obtain ⟨place, hplace, hentry, hput⟩ :=
                Disk.write_eq_some_iff.1 (reliable_host.write hwrite)
              exact .inr ⟨place, _, hplace, hentry, hput⟩ }

end Session

end Highlight
