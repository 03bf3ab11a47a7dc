import Highlight.Attribute
import Highlight.Pair.Grammar
import Highlight.Pattern.Draft
import Highlight.Rule

/-!
Rules for attribute and value pairs. The rule of a known attribute tells quoted values, references,
accepted values and everything else apart; the generic rule takes any attribute and any value. A
strict context lists the rules of the known attributes before the generic one.
-/

namespace Highlight

inductive Validation
  | strict
  | lenient
  deriving DecidableEq, Repr

inductive PairSlot
  | name
  | quoted
  | reference
  | valid
  | residual
  deriving DecidableEq, Repr

inductive FragmentKind
  | known (name : Text)
  | generic
  deriving DecidableEq, Repr

/-- A rule for pairs, with the group of each slot. -/
structure Fragment where
  kind : FragmentKind
  rule : Rule
  slots : List (PairSlot × Nat)

namespace Fragment

open Pattern (Draft)

def slot? (fragment : Fragment) (slot : PairSlot) : Option Nat :=
  (fragment.slots.find? (·.1 = slot)).map (·.2)

def slot (fragment : Fragment) (slot : PairSlot) : Nat := (fragment.slot? slot).getD 0

/-- The group that marks a refused value. -/
def invalidSlot? (fragment : Fragment) : Option Nat :=
  match fragment.kind with
  | .known _ => fragment.slot? .residual
  | .generic => none

def quotedPattern : Text := "\"[^\"]*\"|'[^']*'".toList

def referencePattern : Text := "\\$[A-Z_][A-Z0-9_]*".toList

def namePattern : Text := "[a-z-]+(?:@[a-z-]+)?".toList

/-- The name, the separator between blanks, and the alternatives for the value. -/
def pairDraft (name : Draft PairSlot) (pair : PairGrammar) (values : List (Draft PairSlot)) :
    List (Draft PairSlot) :=
  [.capture .name [name], .raw "\\s*".toList, .literal pair.separator, .raw "\\s*".toList,
    .group ([.capture .quoted [.raw quotedPattern], .alternative,
      .capture .reference [.raw referencePattern], .alternative] ++ values)]

def knownDraft (a : Attribute) (pair : PairGrammar) : List (Draft PairSlot) :=
  pairDraft (.literal a.name) pair
    [.capture .valid [.embed a.grammar a.groups], .raw pair.bound, .alternative,
      .capture .residual [.raw pair.residual]]

def genericDraft (pair : PairGrammar) : List (Draft PairSlot) :=
  pairDraft (.raw namePattern) pair [.capture .residual [.raw pair.residual]]

/-- The style of a slot. What a known attribute does not accept is invalid. -/
def tagOf (kind : FragmentKind) : PairSlot → StyleTag
  | .name => .propName
  | .quoted | .valid => .propValue
  | .reference => .reference
  | .residual =>
    match kind with
    | .known _ => .invalid
    | .generic => .propValue

def ofDraft (kind : FragmentKind) (draft : List (Draft PairSlot)) : Fragment where
  kind := kind
  rule := (Draft.allSlots 0 draft).foldl (fun rule (slot, group) =>
    rule.capture group (tagOf kind slot)) (Rule.ofPattern (Draft.sources draft))
  slots := Draft.allSlots 0 draft

def known (a : Attribute) (pair : PairGrammar) : Fragment :=
  ofDraft (.known a.name) (knownDraft a pair)

def generic (pair : PairGrammar) : Fragment := ofDraft .generic (genericDraft pair)

/-- The rules for one way of writing pairs, in the order in which they are tried. -/
def synthesize (table : AttributeTable) (pair : PairGrammar) : Validation → List Fragment
  | .strict => table.attributes.map (known · pair) ++ [generic pair]
  | .lenient => [generic pair]

end Fragment
end Highlight
