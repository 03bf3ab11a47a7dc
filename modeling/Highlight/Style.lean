import Highlight.Dictionary
import Highlight.Error
import Highlight.Placeholder

/-!
Style tags and the classifications they stand for. Rules and templates carry tags; a `StyleMap`
gives each tag the scope name that an editor understands, and `resolve` replaces the tags of a
whole document in one scan, so that replaced text is never read again.
-/

namespace Highlight

/-- The tags that generated rules carry: attribute names, accepted values, refused values,
`$NAME` references, operators and lengths. -/
inductive StyleTag
  | propName
  | propValue
  | invalid
  | reference
  | operator
  | length
  deriving DecidableEq, Repr

namespace StyleTag

def all : List StyleTag := [propName, propValue, invalid, reference, operator, length]

def name : StyleTag → Text
  | propName => "PROP_NAME".toList
  | propValue => "PROP_VALUE".toList
  | invalid => "INVALID".toList
  | reference => "VARIABLE".toList
  | operator => "OPERATOR".toList
  | length => "LENGTH".toList

def ofName? (name : Text) : Option StyleTag := all.find? (·.name = name)

def placeholder (tag : StyleTag) : Text := TokenShape.style.spell tag.name

def placeholders (tags : List StyleTag) : Text := Text.join [' '] (tags.map placeholder)

end StyleTag

/-- A closed mapping from tag names to classifications. -/
structure StyleMap where
  entries : Dictionary Text Text

namespace StyleMap

def empty : StyleMap := ⟨.empty⟩

def classification (m : StyleMap) (tag : Text) : Option Text := m.entries.get? tag

/-- Adds a mapping; a tag is mapped once. -/
def insert (m : StyleMap) (tag classification : Text) : Except Error StyleMap :=
  if !isPlaceholderName tag then .error (.invalidStyleTag (.malformedTag tag))
  else if !Words.scopes.spells classification then
    .error (.invalidStyleTag (.malformedClassification classification tag))
  else if m.entries.contains tag then .error (.invalidStyleTag (.mappedTwice tag))
  else .ok ⟨m.entries.insert tag classification⟩

/-- Adds mappings in order, up to the first that cannot be added. -/
def insertAll (m : StyleMap) : List (Text × Text) → Except Error StyleMap
  | [] => .ok m
  | (tag, classification) :: pairs => do insertAll (← m.insert tag classification) pairs

def ofPairs (pairs : List (Text × Text)) : Except Error StyleMap := empty.insertAll pairs

def placeholders (m : StyleMap) : List Text := m.entries.keys.map TokenShape.style.spell

def resolvePiece (m : StyleMap) : Piece → Except Error Text
  | .char c => .ok [c]
  | .token tag =>
    match m.classification tag with
    | some classification => .ok classification
    | none => .error (.unresolvedPlaceholder (TokenShape.style.spell tag))

def resolvePieces (m : StyleMap) : List Piece → Except Error Text
  | [] => .ok []
  | piece :: pieces => do
    let first ← m.resolvePiece piece
    let rest ← resolvePieces m pieces
    return first ++ rest

def resolve (m : StyleMap) (text : Text) : Except Error Text :=
  m.resolvePieces (TokenShape.style.scan text)

end StyleMap
end Highlight
