import Highlight.Builtin.Attributes
import Highlight.Builtin.Expressions
import Highlight.Builtin.Languages
import Highlight.Builtin.Styles
import Highlight.Log
import Highlight.Template.Compose

/-!
The generator: languages, tables and settings, and the documents made from them. It works on the
text of templates; `report` lists what it would say while making a document.
-/

namespace Highlight

structure Generator where
  languages : Dictionary Text Language
  attributes : AttributeTable
  styles : StyleMap
  validation : ValidationSettings

namespace Generator

def make (attributes : AttributeTable) (styles : StyleMap) (validation : ValidationSettings) :
    Generator := ⟨.empty, attributes, styles, validation⟩

def addLanguage (g : Generator) (language : Language) : Generator :=
  { g with languages := g.languages.insert language.name language }

def builtin (validation : ValidationSettings) : Except Error Generator := do
  let attributes ← Builtin.attributeTable
  let styles ← Builtin.styleMap
  let languages ← Builtin.languages
  return languages.foldl addLanguage (make attributes styles validation)

def language (g : Generator) (name : Text) : Except Error Language :=
  match g.languages.get? name with
  | some language => .ok language
  | none => .error (.unknownLanguage name)

def names (g : Generator) : List Text := g.languages.keys

def fragments (g : Generator) (context : PairContext) : Except Error (List Fragment) :=
  context.pairGrammar.map fun pair =>
    Fragment.synthesize g.attributes pair (g.validation.get context)

def content (g : Generator) : Slot → Except Error Content
  | .pairs context => (g.fragments context).map fun fragments => .rules (fragments.map (·.rule))
  | .expressions => .ok (.rules Builtin.expressionRules)
  | .wordPattern => .ok (.text Builtin.wordPattern)

def fillSlots (g : Generator) (s : Substitutions) : List Slot → Except Error Substitutions
  | [] => .ok s
  | slot :: slots => do
    let content ← g.content slot
    fillSlots g (← s.insert slot.name content) slots

/-- The document of a template whose slots are to be exactly the given ones. -/
def document (g : Generator) (slots : List Slot) (template : Text) : Except Error Text := do
  let substitutions ← g.fillSlots .empty slots
  (← Compositor.make g.styles substitutions).compose (.ofText template)

def generate (g : Generator) (kind : DocumentKind) (name template : Text) : Except Error Text :=
  (do g.document ((← g.language name).slots kind) template).mapError (Error.inLanguage name)

def debug (origin : Log.Origin) (text : Text) : Log.Entry := ⟨.debug, origin, text⟩

def optionText : Option Nat → Text
  | some n => "Some(".toList ++ Text.ofNat n ++ [')']
  | none => "None".toList

def fragmentReport (fragment : Fragment) : Log.Entry :=
  debug .synthesis ((match fragment.kind with
    | .known name => name
    | .generic => ['*']) ++
    ": name ".toList ++ Text.ofNat (fragment.slot .name) ++
    ", quoted ".toList ++ Text.ofNat (fragment.slot .quoted) ++
    ", variable ".toList ++ Text.ofNat (fragment.slot .reference) ++
    ", valid ".toList ++ optionText (fragment.slot? .valid) ++
    ", residual ".toList ++ Text.ofNat (fragment.slot .residual) ++
    ", invalid ".toList ++ optionText fragment.invalidSlot?)

def slotReport (g : Generator) (slot : Slot) : List Log.Entry :=
  debug .generator ("building slot ".toList ++ slot.name) ::
  match slot with
  | .pairs context =>
    match context.pairGrammar, g.fragments context with
    | .ok pair, .ok fragments =>
      fragments.map fragmentReport ++
        [debug .synthesis ("synthesized ".toList ++ Text.ofNat fragments.length ++
          " fragments for separator '".toList ++ pair.separator ++ "' (".toList ++
          (match g.validation.get context with
            | .strict => "Strict".toList
            | .lenient => "Lenient".toList) ++ [')'])]
    | _, _ => []
  | _ => []

/-- What is said while the slots of a template are filled, up to the first without content. -/
def fillReport (compositor : Compositor) (template : Template) : List Log.Entry :=
  if (compositor.unused? template).isSome then []
  else
    (template.slots.takeWhile fun name => (compositor.substitutions.get? name).isSome).map
      fun name => debug .template ("filling slot ".toList ++ name)

def report (g : Generator) (slots : List Slot) (template : Text) : List Log.Entry :=
  slots.flatMap g.slotReport ++
    match g.fillSlots .empty slots with
    | .ok substitutions => fillReport ⟨g.styles, substitutions⟩ (.ofText template)
    | .error _ => []

end Generator
end Highlight
