import Highlight.Proofs.Attribute
import Highlight.Proofs.Pair.GenericRule

/-!
The rules for a table and a way of writing pairs. A rule styles the groups of its slots by
`entries_ofDraft`; which rules there are follows the table entry by entry, so that a new attribute
changes nothing about the rules of the others.
-/

namespace Highlight

/-- All tags of a rule: those of the whole match and those of its groups. -/
def Rule.allTags (rule : Rule) : List StyleTag :=
  rule.tags.getD [] ++ rule.captures.entries.flatMap (·.2)

namespace Fragment

open Pattern (Draft)

variable {kind : FragmentKind} {draft : List (Draft PairSlot)} {slots : List (PairSlot × Nat)}
  {slot : PairSlot × Nat} {pair : PairGrammar} {a : Attribute} {table table' : AttributeTable}
  {name grammar : Text}

def styling (kind : FragmentKind) (slots : List (PairSlot × Nat)) : List Rule.Call :=
  slots.map fun slot => .capture slot.2 (tagOf kind slot.1)

theorem groupTags_styling_eq_nil (h : ∀ other ∈ slots, other.2 ≠ slot.2) :
    Rule.groupTags (styling kind slots) slot.2 = [] := by
  rw [styling, Rule.groupTags, List.filterMap_map, List.filterMap_eq_nil_iff]
  exact fun other hmem => if_neg (h other hmem)

theorem groupTags_styling (h : (slots.map (·.2)).Nodup) (hmem : slot ∈ slots) :
    Rule.groupTags (styling kind slots) slot.2 = [tagOf kind slot.1] := by
  induction slots with
  | nil => cases hmem
  | cons first slots ih =>
      obtain ⟨hfirst, hrest⟩ := List.nodup_cons.1 h
      have hcons : Rule.groupTags (styling kind (first :: slots)) slot.2 =
          (if first.2 = slot.2 then [tagOf kind first.1] else []) ++
            Rule.groupTags (styling kind slots) slot.2 := by
        simp only [styling, Rule.groupTags, List.map_cons, List.filterMap_cons, Rule.Call.groupTag?]
        split <;> simp_all
      rcases List.mem_cons.1 hmem with rfl | hmem
      · rw [hcons, if_pos rfl, groupTags_styling_eq_nil, List.append_nil]
        intro other hother heq
        exact hfirst (List.mem_map.2 ⟨other, hother, heq⟩)
      · rw [hcons, if_neg, List.nil_append, ih hrest hmem]
        intro heq
        exact hfirst (List.mem_map.2 ⟨slot, hmem, heq.symm⟩)

/-- A rule whose slots open one behind the other styles just their groups, each by one tag. -/
theorem entries_ofDraft (h : ((ofDraft kind draft).slots.map (·.2)).Pairwise (· < ·)) :
    (ofDraft kind draft).rule.captures.entries =
      (ofDraft kind draft).slots.map fun slot => (slot.2, [tagOf kind slot.1]) := by
  have hasymm : Std.Asymm (α := Nat × List StyleTag) (fun a b => a.1 < b.1) :=
    ⟨fun a b => Nat.lt_asymm⟩
  have hnodup : ((ofDraft kind draft).slots.map (·.2)).Nodup := h.imp Nat.ne_of_lt
  have hascending : ((ofDraft kind draft).slots.map fun slot =>
      (slot.2, [tagOf kind slot.1])).Pairwise (fun a b => a.1 < b.1) := by
    rw [List.pairwise_map] at h ⊢
    exact h
  rw [rule_ofDraft]
  refine (Rule.ofCalls _ _).captures.ascending.eq_of_mem_iff hascending fun entry => ?_
  obtain ⟨group, tags⟩ := entry
  rw [Rule.mem_entries_captures_ofCalls, List.mem_map]
  constructor
  · rintro ⟨⟨tag, htag⟩, rfl⟩
    obtain ⟨slot, hslot, hcall⟩ := List.mem_map.1 htag
    cases hcall
    exact ⟨slot, hslot, Prod.ext rfl (groupTags_styling hnodup hslot).symm⟩
  · rintro ⟨slot, hslot, heq⟩
    cases heq
    exact ⟨⟨_, List.mem_map_of_mem hslot⟩, (groupTags_styling hnodup hslot).symm⟩

theorem tags_ofDraft (kind : FragmentKind) (draft : List (Draft PairSlot)) :
    (ofDraft kind draft).rule.tags = none := by
  have hnone : Rule.matchTags (styling kind (ofDraft kind draft).slots) = [] := by
    rw [styling, Rule.matchTags, List.filterMap_map, List.filterMap_eq_nil_iff]
    exact fun _ _ => rfl
  rw [rule_ofDraft, Rule.tags_ofCalls]
  exact congrArg Rule.listed? hnone

theorem slots_known (a : Attribute) (pair : PairGrammar) : (known a pair).slots =
    [(.name, 1), (.quoted, 2), (.reference, 3), (.valid, 4), (.residual, 5 + a.groups)] := by
  simp [known, ofDraft, knownDraft, pairDraft, Draft.allSlots, Draft.slots, Draft.allGroups,
    Draft.groups]
  omega

theorem entries_known (a : Attribute) (pair : PairGrammar) :
    (known a pair).rule.captures.entries = [(1, [.propName]), (2, [.propValue]), (3, [.reference]),
      (4, [.propValue]), (5 + a.groups, [.invalid])] := by
  have hslots := slots_known a pair
  rw [known] at hslots ⊢
  rw [entries_ofDraft, hslots]
  · rfl
  · rw [hslots]
    simp
    omega

/-- How a rule that checks values marks groups: each of five slots has a group of its own, just
these groups are styled, and only the last of them is styled as invalid, once. -/
structure Checks (fragment : Fragment) : Prop where
  slots : fragment.slots.map (·.1) = [.name, .quoted, .reference, .valid, .residual]
  distinct : (fragment.slots.map (·.2)).Nodup
  styled : fragment.rule.captures.keys = fragment.slots.map (·.2)
  once : fragment.rule.allTags.count .invalid = 1
  last : ∃ last, fragment.invalidSlot? = some last ∧
    fragment.rule.captures.get? last = some [.invalid] ∧ ∀ slot ∈ fragment.slots, slot.2 ≤ last

theorem checks_known (a : Attribute) (pair : PairGrammar) : (known a pair).Checks where
  slots := by
    rw [slots_known]
    rfl
  distinct := by
    rw [slots_known]
    simp
    omega
  styled := by
    rw [Dictionary.keys, entries_known, slots_known]
    rfl
  once := by
    rw [Rule.allTags, entries_known, known, tags_ofDraft]
    rfl
  last := by
    refine ⟨5 + a.groups, ?_, ?_, ?_⟩
    · rw [invalidSlot?, slot?, slots_known]
      rfl
    · have hmem : (5 + a.groups, [.invalid]) ∈ (known a pair).rule.captures.entries := by
        rw [entries_known]
        simp
      exact Dictionary.mem_entries_iff.1 hmem
    · rw [slots_known]
      simp
      omega

theorem invalid_not_mem_allTags_generic (pair : PairGrammar) :
    .invalid ∉ (generic pair).rule.allTags := by
  rw [Rule.allTags, entries_generic, generic, tags_ofDraft]
  decide

/-- The fragment that checks values in the rules of a table with one attribute alone. -/
def IsOf (fragment : Fragment) (pair : PairGrammar) (a : Attribute) : Prop :=
  fragment.kind = .known a.name ∧ ∃ alone, AttributeTable.empty.add a.name a.grammar = .ok alone ∧
    synthesize alone pair .strict = [fragment, generic pair]

theorem isOf_known {entry : Text × Text} (h : a.Records entry) (pair : PairGrammar) :
    (known a pair).IsOf pair a := by
  have hadd : AttributeTable.empty.add a.name a.grammar = .ok ⟨[a]⟩ :=
    AttributeTable.add_eq_ok_iff.2 ⟨nofun, a, ⟨rfl, rfl, h.hyphenated, h.groups⟩, rfl⟩
  exact ⟨rfl, ⟨[a]⟩, hadd, rfl⟩

theorem kinds_known (table : AttributeTable) (pair : PairGrammar) :
    (table.attributes.map (known · pair)).map (·.kind) = table.names.map .known := by
  rw [AttributeTable.names, List.map_map, List.map_map]
  rfl

/-- The rules for a table that any calls have led to. In a strict context there is one for each
attribute, in the order of the table and under distinct names, which is the one that a table with
this attribute alone would give; behind them stands the generic rule, which is all that a lenient
context has. A rule that checks values styles the groups of its five slots and no others, the last
of them alone as invalid; the generic rule styles nothing as invalid. An attribute that is added
puts its rule ahead of the generic one and changes no other. -/
theorem synthesize_ofHistory (pairs : List (Text × Text)) (pair : PairGrammar) :
    ∃ rules : List Fragment,
      synthesize (.ofHistory pairs) pair .strict = rules ++ [generic pair] ∧
      synthesize (.ofHistory pairs) pair .lenient = [generic pair] ∧
      List.Forall₂ (IsOf · pair) rules (AttributeTable.ofHistory pairs).attributes ∧
      (rules.map (·.kind)).Nodup ∧
      (∀ fragment ∈ rules, fragment.Checks) ∧
      ((generic pair).kind = .generic ∧ .invalid ∉ (generic pair).rule.allTags ∧
        (generic pair).invalidSlot? = none) ∧
      ∀ name grammar table, (AttributeTable.ofHistory pairs).add name grammar = .ok table →
        ∃ a fragment, a.Records (name, grammar) ∧ fragment.IsOf pair a ∧ fragment.Checks ∧
          synthesize table pair .strict = rules ++ [fragment, generic pair] ∧
          synthesize table pair .lenient = [generic pair] := by
  refine ⟨(AttributeTable.ofHistory pairs).attributes.map (known · pair), rfl, rfl, ?_, ?_, ?_,
    ⟨rfl, invalid_not_mem_allTags_generic pair, rfl⟩, ?_⟩
  · rw [List.forall₂_map_left_iff, List.forall₂_same]
    intro a ha
    obtain ⟨entry, hrecords⟩ := AttributeTable.exists_records_of_mem ha
    exact isOf_known hrecords pair
  · rw [kinds_known]
    exact (AttributeTable.nodup_names_ofHistory pairs).map fun _ _ => FragmentKind.known.inj
  · intro fragment hmem
    obtain ⟨a, -, rfl⟩ := List.mem_map.1 hmem
    exact checks_known a pair
  · intro name grammar table hadd
    obtain ⟨-, a, ha, rfl⟩ := AttributeTable.add_eq_ok_iff.1 hadd
    refine ⟨a, known a pair, ha, isOf_known ha pair, checks_known a pair, ?_, rfl⟩
    simp [synthesize]

end Fragment

end Highlight
