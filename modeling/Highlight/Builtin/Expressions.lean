import Highlight.Pair.Fragment

/-!
Rules for the expressions of both languages (references, operators and lengths), and the pattern of
what editors take for a word.
-/

namespace Highlight.Builtin

open Pattern (Draft)

/-- Units of a length; `%` is not among them because no word ends behind it. -/
def lengthUnits : Text := "pw|ph|cw|ch|mt|mr|mb|ml|sbh|eb".toList

/-- Comparison and arithmetic operators, the longer ones first. -/
def operators : Text := "==|!=|<=|>=|\\*|\\+|-|/|<|>".toList

def wordPattern : Text := "([\\w-]+(@(verso|recto))?)|(\\$[A-Z_]+)".toList

/-- A signed decimal with an optional unit; the one capture holds a unit that is not known. -/
def lengthDraft : List (Draft Unit) :=
  [.raw "[+-]?(?:[0-9]*\\.)?[0-9]+".toList,
    .group [.group [.raw lengthUnits], .raw "\\b".toList, .alternative, .raw "%".toList,
      .alternative, .capture () [.raw "[A-Za-z]+".toList]],
    .raw "?".toList]

def referenceRule : Rule := (Rule.ofPattern Fragment.referencePattern).named .reference

def operatorRule : Rule := (Rule.ofPattern operators).named .operator

def lengthRule : Rule :=
  (Draft.allSlots 0 lengthDraft).foldl (fun rule (_, group) => rule.capture group .invalid)
    ((Rule.ofPattern (Draft.sources lengthDraft)).named .length)

def expressionRules : List Rule := [referenceRule, operatorRule, lengthRule]

end Highlight.Builtin
