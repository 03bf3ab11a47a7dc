import Highlight.Placeholder

/-!
Templates. A template is text with slots: quoted placeholders whose name is no style tag. It is
never read as JSON, so all that stands around the slots is kept as it is.
-/

namespace Highlight

/-- A stretch of a template. A slot stands for its quoted placeholder, quotes included. -/
inductive Segment
  | text (s : Text)
  | slot (name : Text)
  deriving DecidableEq, Repr

structure Template where
  segments : List Segment
  deriving DecidableEq, Repr

namespace Template

/-- Puts text in front of segments, joining it to text that comes first. -/
def addText (s : Text) : List Segment → List Segment
  | .text t :: segments => .text (s ++ t) :: segments
  | segments => .text s :: segments

/-- Puts a scanned piece in front of segments; a quoted style tag is text. -/
def addPiece (piece : Piece) (segments : List Segment) : List Segment :=
  match piece with
  | .char c => addText [c] segments
  | .token name =>
    if stylePrefix.isPrefixOf name then addText (TokenShape.quoted.spell name) segments
    else .slot name :: segments

/-- Splits a text into slots and the text between them. -/
def ofText (text : Text) : Template := ⟨(TokenShape.quoted.scan text).foldr addPiece []⟩

/-- The names of the slots, in order and with repetitions. -/
def slots (template : Template) : List Text :=
  template.segments.filterMap fun
    | .slot name => some name
    | .text _ => none

def hasSlot (template : Template) (name : Text) : Bool := name ∈ template.slots

end Template
end Highlight
