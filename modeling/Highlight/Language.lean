import Highlight.Pair.Fragment

/-!
Languages: the ways of writing pairs, the slots that a template may have, and which slots and files
belong to a language.
-/

namespace Highlight

/-- Where pairs stand: `key=value, key=value`, `key: value;` in a block, or `key=value` inside of
`=( … )=`. -/
inductive PairContext
  | list
  | group
  | inlineList
  deriving DecidableEq, Repr

namespace PairContext

def all : List PairContext := [list, group, inlineList]

def name : PairContext → Text
  | list => "list".toList
  | group => "group".toList
  | inlineList => "inline-list".toList

def ofName? (name : Text) : Option PairContext := all.find? (·.name = name)

def pairGrammar : PairContext → Except Error PairGrammar
  | list => PairGrammar.make "=".toList ",".toList
  | group => PairGrammar.make ":".toList ";".toList
  | inlineList => PairGrammar.make "=".toList "(,)".toList

end PairContext

structure ValidationSettings where
  list : Validation := .strict
  group : Validation := .strict
  inlineList : Validation := .lenient
  deriving DecidableEq, Repr

namespace ValidationSettings

def get (settings : ValidationSettings) : PairContext → Validation
  | .list => settings.list
  | .group => settings.group
  | .inlineList => settings.inlineList

def set (settings : ValidationSettings) (context : PairContext) (validation : Validation) :
    ValidationSettings :=
  match context with
  | .list => { settings with list := validation }
  | .group => { settings with group := validation }
  | .inlineList => { settings with inlineList := validation }

end ValidationSettings

/-- The slots of templates. The word pattern belongs to configurations, the others to grammars. -/
inductive Slot
  | pairs (context : PairContext)
  | expressions
  | wordPattern
  deriving DecidableEq, Repr

namespace Slot

def all : List Slot := PairContext.all.map pairs ++ [expressions, wordPattern]

def name : Slot → Text
  | pairs .list => "PROP_LIST_PATTERNS".toList
  | pairs .group => "PROP_GROUP_PATTERNS".toList
  | pairs .inlineList => "INLINE_PROP_LIST_PATTERNS".toList
  | expressions => "EXPRESSION_PATTERNS".toList
  | wordPattern => "WORD_PATTERN".toList

def ofName? (name : Text) : Option Slot := all.find? (·.name = name)

end Slot

/-- What is made for a language: its grammar, and a configuration for editors. -/
inductive DocumentKind
  | grammar
  | configuration
  deriving DecidableEq, Repr

/-- A language: its name, the slots of its grammar, and whether editors get a configuration. -/
structure Language where
  name : Text
  grammarSlots : List Slot := []
  configuration : Bool := false
  deriving DecidableEq, Repr

namespace Language

/-- Adds a slot to the grammar, once. -/
def addSlot (language : Language) (slot : Slot) : Except Error Language :=
  if slot = .wordPattern then .error (.malformedTemplate (.configurationSlot slot.name))
  else if slot ∈ language.grammarSlots then .ok language
  else .ok { language with grammarSlots := language.grammarSlots ++ [slot] }

def addSlots (language : Language) : List Slot → Except Error Language
  | [] => .ok language
  | slot :: slots =>
    match language.addSlot slot with
    | .ok language => addSlots language slots
    | .error e => .error e

def addConfiguration (language : Language) : Language := { language with configuration := true }

def documents (language : Language) : List DocumentKind :=
  if language.configuration then [.grammar, .configuration] else [.grammar]

def slots (language : Language) : DocumentKind → List Slot
  | .grammar => language.grammarSlots
  | .configuration => if language.configuration then [.wordPattern] else []

def template (language : Language) : DocumentKind → Text
  | .grammar => language.name ++ ".tmLanguage.template.json".toList
  | .configuration => language.name ++ "-configuration.template.json".toList

def output (language : Language) : DocumentKind → Text
  | .grammar => language.name ++ ".tmLanguage.json".toList
  | .configuration => language.name ++ "-configuration.json".toList

end Language
end Highlight
