import Highlight.Text

/-!
Everything that can go wrong, as causes. `Error.headline` is the wording of a cause up to the
detail that a failing reader adds, and `inLanguage` names the language at work once only.
-/

namespace Highlight

inductive PairFault
  | emptySeparator
  | noTerminators (separator : Text)
  | sharedCharacter (terminator : Char) (separator : Text)
  deriving DecidableEq, Repr

inductive StyleFault
  | malformedTag (tag : Text)
  | malformedClassification (classification tag : Text)
  | mappedTwice (tag : Text)
  deriving DecidableEq, Repr

inductive TemplateFault
  | missingSlot (token : Text)
  | invalidSlotName (name : Text)
  | configurationSlot (name : Text)
  deriving DecidableEq, Repr

inductive Error
  | inputOutput
  | inputNotFound (path : Text)
  | malformedTemplate (fault : TemplateFault)
  | unresolvedPlaceholder (token : Text)
  | invalidAttributeGrammar (name : Text)
  | invalidAttributeName (name : Text)
  | duplicateAttribute (name : Text)
  | invalidPairGrammar (fault : PairFault)
  | invalidStyleTag (fault : StyleFault)
  | placeholderCollision (slot style : Text)
  | invalidOutput
  | unknownLanguage (name : Text)
  | settings
  | language (name : Text) (cause : Error)
  deriving DecidableEq, Repr

def PairFault.message : PairFault → Text
  | emptySeparator => "empty separator".toList
  | noTerminators separator => "no terminators for separator '".toList ++ separator ++ ['\'']
  | sharedCharacter terminator separator =>
    "terminator '".toList ++ [terminator] ++ "' is part of separator '".toList ++ separator ++
      ['\'']

def StyleFault.message : StyleFault → Text
  | malformedTag tag => "malformed tag name '".toList ++ tag ++ ['\'']
  | malformedClassification classification tag =>
    "malformed classification '".toList ++ classification ++ "' for ".toList ++ tag
  | mappedTwice tag => tag ++ " mapped twice".toList

def TemplateFault.message : TemplateFault → Text
  | missingSlot token => token
  | invalidSlotName name => "invalid slot name '".toList ++ name ++ ['\'']
  | configurationSlot name => name ++ " belongs to the language configuration".toList

namespace Error

/-- The wording of a cause, without the detail a failing reader would add after the colon. -/
def headline : Error → Text
  | inputOutput => "I/O error: ".toList
  | inputNotFound path => "Input not found: ".toList ++ path
  | malformedTemplate fault => "Template is missing placeholder ".toList ++ fault.message
  | unresolvedPlaceholder token => "Unresolved placeholder: ".toList ++ token
  | invalidAttributeGrammar name =>
    "Invalid value grammar for attribute '".toList ++ name ++ "': ".toList
  | invalidAttributeName name => "Invalid attribute name: '".toList ++ name ++ ['\'']
  | duplicateAttribute name => "Duplicate attribute: '".toList ++ name ++ ['\'']
  | invalidPairGrammar fault => "Invalid pair grammar: ".toList ++ fault.message
  | invalidStyleTag fault => "Invalid style tag: ".toList ++ fault.message
  | placeholderCollision slot style =>
    "Placeholder ".toList ++ slot ++ " collides with ".toList ++ style
  | invalidOutput => "Generated document is not valid JSON: ".toList
  | unknownLanguage name => "Unknown language: ".toList ++ name
  | settings => "Config error: ".toList
  | language name cause => name ++ ": ".toList ++ cause.headline

/-- What a failing reader says after the headline; empty for causes that speak for themselves. -/
def detail : Error → Text
  | inputOutput => "the file cannot be used".toList
  | invalidAttributeGrammar _ => "the pattern is not well formed".toList
  | invalidOutput => "the text does not follow the JSON grammar".toList
  | settings => "the text does not describe settings".toList
  | language _ cause => cause.detail
  | _ => []

def message (e : Error) : Text := e.headline ++ e.detail

/-- Names the language at work; an error that names one already keeps it. -/
def inLanguage (name : Text) : Error → Error
  | language other cause => .language other cause
  | cause => .language name cause

end Error
end Highlight
