import Highlight.Proofs.Pair.ResidualGroup
import Highlight.Proofs.Rule

/-!
The rule for attributes outside of the table. Its pattern is read as one and the same tree whatever
the separator and the terminators are, with their characters as literals and as the items of a
class; so it can always be read, and each slot is the group whose number it has.
-/

namespace Highlight.Fragment

open Pattern

variable {pair : PairGrammar} {separator terminators : Text}

def lowerWord : Node :=
  .repetition (.bracketed false (.union [.range (.literal 'a' false) (.literal 'z' false),
    .literal '-'])) true 1 none

def qualifiedName : Node :=
  .concat [lowerWord,
    .repetition (.group (.plain []) (.concat [.literal '@', lowerWord])) true 0 (some 1)]

def anyValueTree (terminators : Text) : Node :=
  .group (.plain []) (.alternation
    [captured 2 (.alternation [quotes '"', quotes '\'']), captured 3 dollarName,
      captured 4 (others terminators)])

def genericTree (separator terminators : Text) : Node :=
  .group (.plain []) (.concat
    ([captured 1 qualifiedName, spaces] ++
      (separator.map .literal ++ [spaces, anyValueTree terminators])))

theorem captures_genericTree : (genericTree separator terminators).captures = 4 := by
  simp [genericTree, anyValueTree, Node.captures, Node.allCaptures, Node.allCaptures_append,
    Node.allCaptures_literals, captured, GroupKind.index, spaces, others, quotes, dollarName,
    qualifiedName, lowerWord, Node.literal]

theorem unicodeAfter?_genericTree :
    (genericTree separator terminators).unicodeAfter? true = some true := by
  have hname : (captured 1 qualifiedName).unicodeAfter? true = some true := rfl
  have hspaces : spaces.unicodeAfter? true = some true := rfl
  have hquoted : (captured 2 (.alternation [quotes '"', quotes '\''])).unicodeAfter? true =
      some true := rfl
  have hdollar : (captured 3 dollarName).unicodeAfter? true = some true := rfl
  have hrest : (captured 4 (others terminators)).unicodeAfter? true = some true :=
    unicodeAfter?_captured (unicodeAfter?_others _)
  simp only [genericTree, anyValueTree, Node.unicodeAfter?, Node.allUnicodeAfter?_append,
    Node.allUnicodeAfter?, Node.allUnicodeAfter?_literals, GroupKind.flags, Flags.setting,
    List.find?_nil, Option.map_none, Option.getD_none, Option.map_some, Option.bind_some, hname,
    hspaces, hquoted, hdollar, hrest]

theorem depth_genericTree : (genericTree separator terminators).depth ≤ depthLimit := by
  have hrest := depth_others_le terminators
  have hname : (captured 1 qualifiedName).depth = 8 := rfl
  have hspaces : spaces.depth = 1 := rfl
  have hquotes : (captured 2 (.alternation [quotes '"', quotes '\''])).depth = 5 := rfl
  have hdollar : (captured 3 dollarName).depth = 5 := rfl
  simp only [genericTree, anyValueTree, Node.depth, Node.depths_append, Node.depths, hname, hspaces,
    hquotes, hdollar, Node.depths_literals, depthLimit]
  simp only [captured, Node.depth]
  omega

theorem reads_lowerWord : Reads "[a-z-]+".toList 0 fun _ row => row.push lowerWord :=
  Reads.repeated (Reads.bracketed false
    (ReadsItems.rangeHyphen (by decide) (by decide) (by decide)) (by decide)
    (forall_mem_of_all_option (by decide))) rfl (by decide) fun _ _ => rfl

theorem reads_namePattern : Reads namePattern 0 fun _ row =>
    row.pushAll [lowerWord,
      .repetition (.group (.plain []) (.concat [.literal '@', lowerWord])) true 0 (some 1)] := by
  have hat : Reads ['@'] 0 fun _ row => row.push (.literal '@') := Reads.atom rfl
  exact reads_lowerWord.append (hat.append reads_lowerWord (by decide)).optional (by simp)

/-- The whole of the generic pattern, with what is read ahead of the value as one row. -/
theorem reads_generic (hterminators : pair.terminators ≠ []) :
    Reads (generic pair).rule.pattern 4 fun n row =>
      row.pushAll ([captured (n + 1) qualifiedName, spaces] ++
        (pair.separator.map .literal ++ [spaces, .group (.plain []) (.alternation
          [captured (n + 2) (.alternation [quotes '"', quotes '\'']), captured (n + 3) dollarName,
            captured (n + 4) (others pair.terminators)])])) := by
  have hname := reads_namePattern.capture (by decide)
  have hresidual := (reads_residual hterminators).capture (by simp [PairGrammar.residual])
  have hvalues := (reads_quotedText.append hresidual (by simp)).group
  have hseparated := (Reads.escape pair.separator).append (reads_spaces.append hvalues (by simp))
    (by simp)
  have hhead : (escape pair.separator ++ ("\\s*".toList ++ ("(?:".toList ++
      (quotedText ++ '(' :: (pair.residual ++ [')'])) ++ [')']))).head? ≠ some '?' := by
    have hne := head?_escape_ne (c := '?') (by decide) (by decide) pair.separator
    cases hcase : escape pair.separator with
    | nil => simp
    | cons c text =>
        rw [hcase] at hne
        exact hne
  have hall := hname.append (reads_spaces.append hseparated hhead) (by simp)
  have htext : (generic pair).rule.pattern = '(' :: (namePattern ++ [')']) ++ ("\\s*".toList ++
      (escape pair.separator ++ ("\\s*".toList ++ ("(?:".toList ++
        (quotedText ++ '(' :: (pair.residual ++ [')'])) ++ [')'])))) := by
    rw [generic, pattern_ofDraft]
    simp only [genericDraft, pairDraft, Draft.sources, Draft.source, quotedText, List.cons_append,
      List.nil_append, List.append_nil, List.append_assoc]
  rw [htext]
  refine hall.congr fun n row => ?_
  simp only [Row.pushAll_append]
  rfl

theorem run_generic (hterminators : pair.terminators ≠ []) :
    run .initial (wrap (generic pair).rule.pattern) =
      .ok (genericTree pair.separator pair.terminators) := by
  have hread := (reads_generic hterminators).group .initial [] rfl (by simp)
  rw [List.append_nil, ← wrap.eq_1] at hread
  rw [hread, run_of_skip_eq_nil rfl, State.finish]
  simp only [State.grown, State.initial, Row.close_pushAll]
  rfl

theorem slots_generic (pair : PairGrammar) :
    (generic pair).slots = [(.name, 1), (.quoted, 2), (.reference, 3), (.residual, 4)] := by
  simp [generic, ofDraft, genericDraft, pairDraft, Draft.allSlots, Draft.slots, Draft.allGroups,
    Draft.groups]

theorem rule_ofDraft (kind : FragmentKind) (draft : List (Draft PairSlot)) :
    (ofDraft kind draft).rule = Rule.ofCalls (Draft.sources draft)
      ((ofDraft kind draft).slots.map fun slot => .capture slot.2 (tagOf kind slot.1)) := by
  rw [Rule.ofCalls, List.foldl_map]
  rfl

theorem entries_generic (pair : PairGrammar) : (generic pair).rule.captures.entries =
    [(1, [.propName]), (2, [.propValue]), (3, [.reference]), (4, [.propValue])] := by
  have hslots := slots_generic pair
  rw [generic] at hslots ⊢
  rw [rule_ofDraft, hslots]
  rfl

/-- Whatever the separator and the terminators are, the generic pattern is read as the one tree that
it is meant to be, with four groups; its slots are those groups in the order in which they open,
each of them has a style, and none is styled as invalid. Only the size of the automaton may be
refused. -/
theorem generic_rule_well_formed (h : PairGrammar.make separator terminators = .ok pair) :
    read (wrap (generic pair).rule.pattern) = .ok (genericTree separator terminators) ∧
      groups? (generic pair).rule.pattern = some 4 ∧
      (countGroups (generic pair).rule.pattern = .ok 4 ∨
        countGroups (generic pair).rule.pattern = .error .tooLarge) ∧
      (generic pair).slots = [(.name, 1), (.quoted, 2), (.reference, 3), (.residual, 4)] ∧
      (generic pair).rule.captures.keys = [1, 2, 3, 4] ∧
      ∀ entry ∈ (generic pair).rule.captures.entries, StyleTag.invalid ∉ entry.2 := by
  obtain ⟨rfl, hterminators⟩ := terminators_of_make h
  have hread : read (wrap (generic ⟨separator, terminators⟩).rule.pattern) =
      .ok (genericTree separator terminators) :=
    read_eq_ok_iff.2 ⟨run_generic hterminators, depth_genericTree,
      by rw [unicodeAfter?_genericTree]; rfl⟩
  refine ⟨hread, groups?_eq_some_iff.2 ⟨_, hread, captures_genericTree⟩, ?_, slots_generic _,
    ?_, ?_⟩
  · have hcount := countGroups_of_read hread
    rwa [captures_genericTree] at hcount
  · rw [Dictionary.keys, entries_generic]
    rfl
  · rw [entries_generic]
    decide

/-- Terminators that would end, negate or combine a class if they were not escaped. -/
theorem generic_rule_of_class_characters :
    ∃ pair, PairGrammar.make "(?:".toList "^]-&&~~[\\--)".toList = .ok pair ∧
      groups? (generic pair).rule.pattern = some 4 ∧
      (generic pair).rule.captures.keys = [1, 2, 3, 4] := by
  have hpair : PairGrammar.make "(?:".toList "^]-&&~~[\\--)".toList =
      .ok ⟨"(?:".toList, "^]-&&~~[\\--)".toList⟩ := rfl
  obtain ⟨-, hgroups, -, -, hkeys, -⟩ := generic_rule_well_formed hpair
  exact ⟨_, hpair, hgroups, hkeys⟩

end Highlight.Fragment
