import Highlight.Json
import Highlight.Style

/-!
Match rules: a pattern with style tags for the whole match and for its capture groups. `toJson` is
the entry that a rule becomes in a grammar's list of patterns.
-/

namespace Highlight

/-- One entry of a grammar's list of patterns. -/
structure Rule where
  tags : Option (List StyleTag)
  pattern : Text
  captures : Dictionary Nat (List StyleTag)

namespace Rule

def ofPattern (pattern : Text) : Rule := ⟨none, pattern, .empty⟩

def named (rule : Rule) (tag : StyleTag) : Rule :=
  { rule with tags := some (rule.tags.getD [] ++ [tag]) }

def capture (rule : Rule) (index : Nat) (tag : StyleTag) : Rule :=
  { rule with captures := rule.captures.insert index ((rule.captures.get? index).getD [] ++ [tag]) }

def captureField (entry : Nat × List StyleTag) : Text × Json :=
  (Text.ofNat entry.1, .object [("name".toList, .string (StyleTag.placeholders entry.2))])

/-- The rule as an object; an absent name and an empty set of captures leave no field. -/
def toJson (rule : Rule) : Json :=
  .object ((match rule.tags with
    | some tags => [("name".toList, .string (StyleTag.placeholders tags))]
    | none => []) ++ ("match".toList, .string rule.pattern) ::
    (if rule.captures.isEmpty then []
     else [("captures".toList, .object (rule.captures.entries.map captureField))]))

def compact (rule : Rule) : Text := rule.toJson.compact

/-- The rule as it is written into a grammar. -/
def pretty (rule : Rule) : Text := rule.toJson.pretty 0

end Rule
end Highlight
