import Highlight.Pair.Fragment
import Highlight.Proofs.Pattern.Parts

/-!
The pattern of a known attribute as a tree. Everything around the attribute's own grammar is read in
the same way whatever the grammar is; `knownTree` has a place for the alternative that holds it.
-/

namespace Highlight.Fragment

open Pattern

def spaces : Node := .repetition (.atom (.shorthand false .space)) true 0 none

def others (text : Text) : Node :=
  .repetition (.bracketed true (.ofItems (text.map .literal))) true 0 none

def quotes (q : Char) : Node := .concat [.literal q, others [q], .literal q]

def capitals : ClassSet := .range (.literal 'A' false) (.literal 'Z' false)

def digits : ClassSet := .range (.literal '0' false) (.literal '9' false)

def dollarName : Node :=
  .concat [.literal '$', .bracketed false (.union [capitals, .literal '_']),
    .repetition (.bracketed false (.union [capitals, digits, .literal '_'])) true 0 none]

def gap : Node :=
  .repetition (.bracketed false (.union [.literal ' ', .literal '\t'])) true 0 none

def lineEndOr (text : Text) : Node :=
  .group (.plain []) (.alternation
    [.atom (.assertion .lineEnd), .bracketed false (.ofItems (text.map .literal))])

def captured (index : Nat) (body : Node) : Node := .group (.capture index none) body

/-- The alternatives for a value: quoted, a reference, `valid`, anything else. -/
def valueTree (pair : PairGrammar) (valid : Node) (residual : Nat) : Node :=
  .group (.plain []) (.alternation
    [captured 2 (.alternation [quotes '"', quotes '\'']), captured 3 dollarName, valid,
      captured residual (others pair.terminators)])

/-- The tree of a known attribute's pattern, with the alternative that holds the grammar and the
number of the residual group. -/
def knownTree (name : Text) (pair : PairGrammar) (valid : Node) (residual : Nat) : Node :=
  .group (.plain []) (.concat
    ([captured 1 (.ofParts (name.map .literal)), spaces] ++
      (pair.separator.map .literal ++ [spaces, valueTree pair valid residual])))

section Measures

variable {name : Text} {pair : PairGrammar} {valid : Node} {residual : Nat}

theorem captures_knownTree (h : valid.captures ≤ residual) (hresidual : 3 ≤ residual) :
    (knownTree name pair valid residual).captures = residual := by
  simp [knownTree, valueTree, Node.captures, Node.allCaptures, Node.allCaptures_append,
    Node.allCaptures_literals, Node.captures_ofParts, captured, GroupKind.index, spaces, others,
    quotes, dollarName, Node.literal]
  omega

theorem isAllowed_literals (text : Text) :
    (ClassSet.ofItems (text.map .literal)).isAllowed true = true := by
  have hitems : ClassSet.areAllowed true (text.map .literal) = true := by
    induction text with
    | nil => rfl
    | cons c text ih => exact ih
  match text with
  | [] => rfl
  | [c] => rfl
  | _ :: _ :: _ => exact hitems

theorem depth_literals_le (text : Text) : (ClassSet.ofItems (text.map .literal)).depth ≤ 1 := by
  have hitems : ClassSet.depths (text.map .literal) = 0 := by
    induction text with
    | nil => rfl
    | cons c text ih => simp only [List.map_cons, ClassSet.depths, ClassSet.literal,
        ClassSet.depth, ih, Nat.max_self]
  match text with
  | [] => exact Nat.zero_le _
  | [c] => exact Nat.zero_le _
  | _ :: _ :: _ => exact Nat.le_of_eq (congrArg (· + 1) hitems)

theorem unicodeAfter?_others (text : Text) : (others text).unicodeAfter? true = some true := by
  simp [others, Node.unicodeAfter?, isAllowed_literals]

theorem unicodeAfter?_captured {index : Nat} {body : Node}
    (h : body.unicodeAfter? true = some true) :
    (captured index body).unicodeAfter? true = some true := by
  simp [captured, Node.unicodeAfter?, h, GroupKind.flags, Flags.setting]

theorem unicodeAfter?_valueTree (h : valid.unicodeAfter? true ≠ some false) :
    (valueTree pair valid residual).unicodeAfter? true = valid.unicodeAfter? true := by
  have hquoted : (captured 2 (.alternation [quotes '"', quotes '\''])).unicodeAfter? true =
      some true := rfl
  have hdollar : (captured 3 dollarName).unicodeAfter? true = some true := rfl
  have hrest : (captured residual (others pair.terminators)).unicodeAfter? true = some true :=
    unicodeAfter?_captured (unicodeAfter?_others _)
  simp only [valueTree, Node.unicodeAfter?, Node.allUnicodeAfter?, GroupKind.flags, Flags.setting,
    List.find?_nil, Option.map_none, Option.getD_none, hquoted, hdollar]
  cases hcase : valid.unicodeAfter? true with
  | none => rfl
  | some after =>
      cases after with
      | true => simp only [hrest, Option.map_some]
      | false => exact absurd hcase h

theorem unicodeAfter?_knownTree (h : valid.unicodeAfter? true ≠ some false) :
    (knownTree name pair valid residual).unicodeAfter? true = valid.unicodeAfter? true := by
  have hname : (captured 1 (.ofParts (name.map .literal))).unicodeAfter? true = some true := by
    apply unicodeAfter?_captured
    rw [Node.unicodeAfter?_ofParts, Node.allUnicodeAfter?_literals]
  have hspaces : spaces.unicodeAfter? true = some true := rfl
  have hvalue : (valueTree pair valid residual).unicodeAfter? true = valid.unicodeAfter? true :=
    unicodeAfter?_valueTree h
  simp only [knownTree, Node.unicodeAfter?, Node.allUnicodeAfter?_append, Node.allUnicodeAfter?,
    GroupKind.flags, Flags.setting, List.find?_nil, Option.map_none, Option.getD_none, hname,
    hspaces, Node.allUnicodeAfter?_literals, Option.bind_some, hvalue]
  cases hcase : valid.unicodeAfter? true with
  | none => rfl
  | some after =>
      cases after with
      | true => rfl
      | false => exact absurd hcase h

theorem depth_others_le (text : Text) : (others text).depth ≤ 3 := by
  have hset := depth_literals_le text
  simp only [others, Node.depth]
  omega

theorem depth_knownTree :
    (knownTree name pair valid residual).depth ≤ depthLimit ↔ valid.depth + 4 ≤ depthLimit := by
  have hname := Node.depth_ofParts_le (name.map .literal)
  have hrest := depth_others_le pair.terminators
  have hquotes : (captured 2 (.alternation [quotes '"', quotes '\''])).depth = 5 := rfl
  have hdollar : (captured 3 dollarName).depth = 5 := rfl
  have hspaces : spaces.depth = 1 := rfl
  rw [Node.depths_literals] at hname
  simp only [knownTree, valueTree, Node.depth, Node.depths_append, Node.depths, hquotes, hdollar, hspaces,
    Node.depths_literals, depthLimit]
  simp only [captured, Node.depth]
  omega

end Measures

end Highlight.Fragment
