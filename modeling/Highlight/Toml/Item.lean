import Highlight.Text

/-!
The values of a settings file, and how keys and headers build tables. A table knows how it came to
be: headers may complete a table that other headers only passed through, and dotted keys may extend
a table that dotted keys began, but nothing is defined twice.
-/

namespace Highlight.Toml

/-- How a table came to be: by its own header, on the way to another one, or by a dotted key. -/
inductive Origin
  | header
  | passage
  | dots
  deriving DecidableEq, Repr

/-- Values. `scalar` stands for all that is neither text nor a collection. -/
inductive Item
  | string (s : Text)
  | scalar
  | array (items : List Item)
  | inline (entries : List (Text × Item))
  | table (origin : Origin) (entries : List (Text × Item))
  | tables (list : List (List (Text × Item)))

abbrev Entries := List (Text × Item)

namespace Entries

def get? (entries : Entries) (key : Text) : Option Item :=
  (entries.find? (·.1 = key)).map (·.2)

def put (key : Text) (item : Item) : Entries → Entries
  | [] => [(key, item)]
  | entry :: entries =>
    if entry.1 = key then (key, item) :: entries else entry :: put key item entries

def putLast (entries : Entries) (step : Text) (list : List Entries) (last : Entries) : Entries :=
  entries.put step (.tables (list.dropLast ++ [last]))

/-- Defines a key below a dotted path. Tables on the path may not have headers of their own, and the
last one must be of dotted keys; `extensible` says that of the table at hand. -/
def define (key : Text) (item : Item) :
    (path : List Text) → (extensible : Bool) → Entries → Option Entries
  | [], extensible, entries =>
    if extensible && (entries.get? key).isNone then some (entries ++ [(key, item)]) else none
  | step :: path, _, entries =>
    match entries.get? step with
    | none => (define key item path true []).map fun inner => entries.put step (.table .dots inner)
    | some (.table .header _) => none
    | some (.table origin inner) =>
      (define key item path (origin = .dots) inner).map fun inner =>
        entries.put step (.table origin inner)
    | some (.tables list) =>
      list.getLast?.bind fun last =>
        (define key item path false last).map fun last => entries.putLast step list last
    | some _ => none

def change (act : Entries → Option Entries) : (path : List Text) → Entries → Option Entries
  | [], entries => act entries
  | step :: path, entries =>
    match entries.get? step with
    | none => (change act path []).map fun inner => entries.put step (.table .passage inner)
    | some (.table origin inner) =>
      (change act path inner).map fun inner => entries.put step (.table origin inner)
    | some (.tables list) =>
      list.getLast?.bind fun last =>
        (change act path last).map fun last => entries.putLast step list last
    | some _ => none

def openTable (key : Text) (entries : Entries) : Option Entries :=
  match entries.get? key with
  | none => some (entries.put key (.table .header []))
  | some (.table .passage inner) => some (entries.put key (.table .header inner))
  | some _ => none

def openNext (key : Text) (entries : Entries) : Option Entries :=
  match entries.get? key with
  | none => some (entries.put key (.tables [[]]))
  | some (.tables list) => some (entries.put key (.tables (list ++ [[]])))
  | some _ => none

end Entries
end Highlight.Toml
