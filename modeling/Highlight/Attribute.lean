import Highlight.Error
import Highlight.Pattern.Reader
import Highlight.Words

/-!
Known attributes and the values they accept. A table keeps its attributes in the order in which they
were added, and no two of them share a name.
-/

namespace Highlight

/-- An attribute, the pattern of its literal values, and the number of groups in that pattern. -/
structure Attribute where
  name : Text
  grammar : Text
  groups : Nat
  deriving DecidableEq, Repr

/-- Checks a name and a grammar. -/
def Attribute.make (name grammar : Text) : Except Error Attribute :=
  if !Words.hyphenated.spells name then .error (.invalidAttributeName name)
  else
    match Pattern.countGroups grammar with
    | .ok groups => .ok ⟨name, grammar, groups⟩
    | .error _ => .error (.invalidAttributeGrammar name)

structure AttributeTable where
  attributes : List Attribute
  deriving DecidableEq, Repr

namespace AttributeTable

def empty : AttributeTable := ⟨[]⟩

def get? (table : AttributeTable) (name : Text) : Option Attribute :=
  table.attributes.find? (·.name = name)

def contains (table : AttributeTable) (name : Text) : Bool := (table.get? name).isSome

def names (table : AttributeTable) : List Text := table.attributes.map (·.name)

/-- Appends an attribute; its name must be new. -/
def add (table : AttributeTable) (name grammar : Text) : Except Error AttributeTable :=
  if table.contains name then .error (.duplicateAttribute name)
  else
    match Attribute.make name grammar with
    | .ok a => .ok ⟨table.attributes ++ [a]⟩
    | .error e => .error e

/-- Appends attributes in order, up to the first that cannot be added. -/
def addAll (table : AttributeTable) : List (Text × Text) → Except Error AttributeTable
  | [] => .ok table
  | (name, grammar) :: pairs =>
    match table.add name grammar with
    | .ok table => addAll table pairs
    | .error e => .error e

def ofPairs (pairs : List (Text × Text)) : Except Error AttributeTable := empty.addAll pairs

end AttributeTable
end Highlight
