import Highlight.Dictionary
import Highlight.Path

/-!
A tree of directories and files, and the directory at hand in it. `locate` finds the place that a
path means; the operations below it look at one place, or change one place and leave every other as
it is.
-/

namespace Highlight

inductive Contents
  | text (t : Text)
  | binary (bytes : List UInt8)
  deriving DecidableEq, Repr

inductive Entry
  | directory
  | file (contents : Contents)
  deriving DecidableEq, Repr

/-- A place in a tree: its name and the names above it, from the innermost to the outermost. The
root is the empty address. -/
abbrev Address := List Text

inductive PathFault
  | missing
  | unusable
  deriving DecidableEq, Repr

/-- What stands at each place below the root, and the directory at hand, where all paths begin that
do not begin at the root. -/
structure Disk where
  entries : Dictionary Address Entry
  here : Address := []

namespace Disk

def empty : Disk := { entries := .empty }

def entry? (d : Disk) : Address → Option Entry
  | [] => some .directory
  | address => d.entries.get? address

def put (d : Disk) (address : Address) (entry : Entry) : Disk :=
  { d with entries := d.entries.insert address entry }

def erase (d : Disk) (address : Address) : Disk := { d with entries := d.entries.erase address }

/-- How many bytes a name and a path may have. -/
def nameLimit : Nat := 255

def pathLimit : Nat := 4095

def size (text : Text) : Nat := text.foldr (fun c n => c.utf8Size + n) 0

/-- Follows names from a place. Each is looked up in a directory; above the root is the root. -/
def walk (d : Disk) : Address → List Text → Except PathFault Address
  | place, [] => .ok place
  | place, name :: names =>
    match d.entry? place with
    | none => .error .missing
    | some (.file _) => .error .unusable
    | some .directory =>
      if name.isEmpty || name = ['.'] then walk d place names
      else if name = ['.', '.'] then walk d place.tail names
      else if nameLimit < size name then .error .unusable
      else walk d (name :: place) names

def isPath (path : Text) : Bool := '\x00' ∉ path && size path ≤ pathLimit

def start (d : Disk) (path : Text) : Address := if path.head? = some '/' then [] else d.here

/-- The place that a path means. -/
def locate (d : Disk) (path : Text) : Except PathFault Address :=
  if !isPath path then .error .unusable
  else if path.isEmpty then .error .missing
  else d.walk (d.start path) (Text.split '/' path)

def read (d : Disk) (path : Text) : Except PathFault Text := do
  match d.entry? (← d.locate path) with
  | none => .error .missing
  | some (.file (.text t)) => .ok t
  | some _ => .error .unusable

def makeDirectory (d : Disk) (path : Text) : Except PathFault Disk := do
  if !isPath path then throw .unusable
  let place ← d.locate (Path.trim path)
  match d.entry? place with
  | none => .ok (d.put place .directory)
  | some .directory => .ok d
  | some (.file _) => .error .unusable

/-- Makes the first directory of a list, and for its sake those that follow, as far as needed. What
has been made stays when a later step fails. -/
def makeChain (d : Disk) : List Text → Disk × Bool
  | [] => (d, true)
  | path :: above =>
    match d.makeDirectory path with
    | .ok made => (made, true)
    | .error .unusable => (d, false)
    | .error .missing =>
      match makeChain d above with
      | (d, false) => (d, false)
      | (d, true) =>
        match d.makeDirectory path with
        | .ok made => (made, true)
        | .error _ => (d, false)

def makeDirectories (d : Disk) (path : Text) : Disk × Bool :=
  if path.isEmpty then (d, true) else d.makeChain (path :: Path.above path)

def write (d : Disk) (path contents : Text) : Option Disk :=
  match d.locate path with
  | .error _ => none
  | .ok place =>
    if d.entry? place = some .directory then none
    else some (d.put place (.file (.text contents)))

def rename (d : Disk) (source target : Text) : Option Disk :=
  match d.locate source, d.locate target with
  | .ok source, .ok target =>
    match d.entry? source with
    | some (.file contents) =>
      if d.entry? target = some .directory then none
      else some ((d.erase source).put target (.file contents))
    | _ => none
  | _, _ => none

def remove (d : Disk) (path : Text) : Disk :=
  match d.locate path with
  | .error _ => d
  | .ok place =>
    match d.entry? place with
    | some (.file _) => d.erase place
    | _ => d

end Disk
end Highlight
