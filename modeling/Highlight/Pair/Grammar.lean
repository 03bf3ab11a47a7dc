import Highlight.Error
import Highlight.Pattern.Escape

/-!
How an attribute and its value are written: a separator between them, and the characters that end a
bare value.
-/

namespace Highlight

structure PairGrammar where
  separator : Text
  terminators : Text
  deriving DecidableEq, Repr

namespace PairGrammar

/-- Neither part may be empty, and no terminator may stand in the separator. -/
def make (separator terminators : Text) : Except Error PairGrammar :=
  if separator.isEmpty then .error (.invalidPairGrammar .emptySeparator)
  else if terminators.isEmpty then .error (.invalidPairGrammar (.noTerminators separator))
  else
    match terminators.find? (· ∈ separator) with
    | some c => .error (.invalidPairGrammar (.sharedCharacter c separator))
    | none => .ok ⟨separator, terminators⟩

/-- The terminators as they stand between the brackets of a class. -/
def classBody (pair : PairGrammar) : Text := Pattern.escape pair.terminators

/-- Anything up to the next terminator. -/
def residual (pair : PairGrammar) : Text := "[^".toList ++ pair.classBody ++ "]*".toList

/-- Blanks, then a terminator or the end of the line. -/
def bound (pair : PairGrammar) : Text :=
  "[ \\t]*(?:$|[".toList ++ pair.classBody ++ "])".toList

end PairGrammar
end Highlight
