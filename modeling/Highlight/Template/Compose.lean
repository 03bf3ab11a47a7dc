import Highlight.Style
import Highlight.Template
import Highlight.Template.Content

/-!
Composition. Slots are filled first and style tags resolved second, over the whole document, so that
rules can carry tags of their own; whatever still looks like a placeholder is an error.
-/

namespace Highlight

/-- The first slot token and style tag of which one contains the other. -/
def collision? (slots styles : List Text) : Option (Text × Text) :=
  slots.findSome? fun slot =>
    (styles.find? fun style => Text.has style slot || Text.has slot style).map fun style =>
      (slot, style)

structure Compositor where
  styles : StyleMap
  substitutions : Substitutions

namespace Compositor

/-- Slot tokens and style tags may not overlap. -/
def make (styles : StyleMap) (substitutions : Substitutions) : Except Error Compositor :=
  match collision? (substitutions.names.map slotToken) styles.placeholders with
  | some (slot, style) => .error (.placeholderCollision slot style)
  | none => .ok ⟨styles, substitutions⟩

def unused? (compositor : Compositor) (template : Template) : Option Text :=
  compositor.substitutions.names.find? fun name => !template.hasSlot name

def fillSegment (compositor : Compositor) : Segment → Except Error Text
  | .text s => .ok s
  | .slot name =>
    match compositor.substitutions.get? name with
    | some content => .ok content.render
    | none => .error (.unresolvedPlaceholder (slotToken name))

/-- Fills segments in order, up to the first slot without content. -/
def fill (compositor : Compositor) : List Segment → Except Error Text
  | [] => .ok []
  | segment :: segments => do
    let first ← compositor.fillSegment segment
    let rest ← fill compositor segments
    return first ++ rest

def compose (compositor : Compositor) (template : Template) : Except Error Text := do
  match compositor.unused? template with
  | some name => .error (.malformedTemplate (.missingSlot (slotToken name)))
  | none =>
    let filled ← compositor.fill template.segments
    let resolved ← compositor.styles.resolve filled
    match TokenShape.any.first? resolved with
    | some name => .error (.unresolvedPlaceholder (slotToken name))
    | none => return resolved

end Compositor
end Highlight
