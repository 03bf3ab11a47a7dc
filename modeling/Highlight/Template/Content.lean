import Highlight.Dictionary
import Highlight.Error
import Highlight.Placeholder
import Highlight.Rule

/-!
Content for the slots of a template. Slot names have a namespace of their own: they are placeholder
names that do not begin like a style tag.
-/

namespace Highlight

/-- What fills a slot: rules as the items of a JSON array, or a string. -/
inductive Content
  | rules (list : List Rule)
  | text (s : Text)

/-- The JSON text of content. -/
def Content.render : Content → Text
  | rules list => Text.join ",\n".toList (list.map Rule.pretty)
  | text s => Json.quote s

/-- The placeholder of a slot, without quotes. -/
def slotToken (name : Text) : Text := TokenShape.any.spell name

structure Substitutions where
  entries : Dictionary Text Content

namespace Substitutions

def empty : Substitutions := ⟨.empty⟩

def get? (s : Substitutions) (name : Text) : Option Content := s.entries.get? name

def names (s : Substitutions) : List Text := s.entries.keys

/-- Gives a slot its content, in place of earlier content. -/
def insert (s : Substitutions) (name : Text) (content : Content) : Except Error Substitutions :=
  if !isPlaceholderName name then .error (.malformedTemplate (.invalidSlotName name))
  else if stylePrefix.isPrefixOf name then
    .error (.placeholderCollision (slotToken name) "the style tag namespace".toList)
  else .ok ⟨s.entries.insert name content⟩

end Substitutions
end Highlight
