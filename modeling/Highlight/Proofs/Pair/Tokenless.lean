import Highlight.Language
import Highlight.Proofs.Pair.ResidualGroup
import Highlight.Proofs.Tokenless

/-!
Patterns for pairs and placeholders. Of what stands around the grammar of an attribute, the pattern
of references alone has underscores, and they are not at its ends; so the rules of a table hold
nothing that looks like a placeholder unless a grammar does.
-/

namespace Highlight

theorem Words.not_mem_of_spells_hyphenated {name : Text}
    (h : Words.hyphenated.spells name = true) : '_' ∉ name := by
  intro hmem
  cases Words.of_mem_of_spells h '_' hmem

namespace AttributeTable

variable {table table' : AttributeTable} {pairs : List (Text × Text)}

/-- Every attribute passes the check on names. -/
def Checked (table : AttributeTable) : Prop :=
  ∀ a ∈ table.attributes, Words.hyphenated.spells a.name = true

theorem Checked.add {name grammar : Text} (h : table.Checked)
    (hadd : table.add name grammar = .ok table') : table'.Checked := by
  obtain ⟨-, a, ha, rfl⟩ := add_eq_ok_iff.1 hadd
  intro b hb
  rcases List.mem_append.1 hb with hb | hb
  · exact h b hb
  · cases List.mem_singleton.1 hb
    exact isHyphenated_iff.1 ha.hyphenated

theorem Checked.addAll (h : table.Checked) (hadd : table.addAll pairs = .ok table') :
    table'.Checked := by
  induction pairs generalizing table with
  | nil =>
      cases hadd
      exact h
  | cons pair pairs ih =>
      obtain ⟨name, grammar⟩ := pair
      rw [AttributeTable.addAll] at hadd
      split at hadd
      · next next hnext => exact ih (h.add hnext) hadd
      · cases hadd

theorem checked_of_ofPairs (h : ofPairs pairs = .ok table) : table.Checked :=
  Checked.addAll (fun _ hmem => absurd hmem List.not_mem_nil) h

end AttributeTable

theorem not_mem_around {front middle back : Text} (hfront : '_' ∉ front) (hmiddle : '_' ∉ middle)
    (hback : '_' ∉ back) : '_' ∉ front ++ middle ++ back := by
  rw [List.mem_append, List.mem_append, not_or, not_or]
  exact ⟨⟨hfront, hmiddle⟩, hback⟩

structure PairGrammar.Plain (pair : PairGrammar) : Prop where
  separator : '_' ∉ pair.separator
  terminators : '_' ∉ pair.terminators

theorem PairContext.plain_pairGrammar {context : PairContext} {pair : PairGrammar}
    (h : context.pairGrammar = .ok pair) : pair.Plain := by
  cases context <;> cases h <;> exact ⟨by decide, by decide⟩

namespace PairGrammar.Plain

variable {pair : PairGrammar}

theorem classBody (h : pair.Plain) : '_' ∉ pair.classBody :=
  Pattern.not_mem_escape (by decide) h.terminators

theorem residual (h : pair.Plain) : '_' ∉ pair.residual :=
  not_mem_around (by decide) h.classBody (by decide)

theorem bound (h : pair.Plain) : '_' ∉ pair.bound :=
  not_mem_around (by decide) h.classBody (by decide)

end PairGrammar.Plain

namespace Fragment

open Pattern (Draft)

variable {pair : PairGrammar} {name : Draft PairSlot} {values : List (Draft PairSlot)}

/-- The pattern for pairs up to the one underscore in it that is not from a table. -/
def ahead (name : Text) (pair : PairGrammar) : Text :=
  '(' :: (name ++ [')']) ++ ("\\s*".toList ++ (Pattern.escape pair.separator ++
    ("\\s*".toList ++ ("(?:".toList ++ '(' :: (quotedPattern ++ ")|(".toList)))))

theorem sources_pairDraft : Draft.sources (pairDraft name pair values) =
    ahead name.source pair ++
      (referencePattern ++ ')' :: (['|'] ++ (Draft.sources values ++ [')']))) := by
  have hbetween : ")|(".toList = [')', '|', '('] := rfl
  simp only [pairDraft, Draft.sources, Draft.source, List.cons_append, List.nil_append,
    List.append_nil, List.append_assoc, ahead, hbetween]

theorem not_mem_ahead {name : Text} (h : pair.Plain) (hname : '_' ∉ name) :
    '_' ∉ ahead name pair := by
  have hseparator : '_' ∉ Pattern.escape pair.separator :=
    Pattern.not_mem_escape (by decide) h.separator
  have hquoted : '_' ∉ quotedPattern := by decide
  simp [ahead, hname, hseparator, hquoted]

theorem tokenless_pairDraft (h : pair.Plain) (hname : '_' ∉ name.source)
    (hvalues : Tokenless (Draft.sources values)) :
    Tokenless (Draft.sources (pairDraft name pair values)) := by
  have hreference : Tokenless referencePattern := tokenless_iff.2 (by decide +kernel)
  have hend : Tokenless (Draft.sources values ++ [')']) :=
    (Tokenless.break_iff (by decide)).2 ⟨hvalues, .of_not_mem List.not_mem_nil⟩
  rw [sources_pairDraft, Tokenless.append_of_not_mem (not_mem_ahead h hname),
    Tokenless.break_iff (by decide), Tokenless.append_of_not_mem (by decide)]
  exact ⟨hreference, hend⟩

theorem tokenless_known {a : Attribute} (h : pair.Plain) (hname : '_' ∉ a.name)
    (hgrammar : Tokenless a.grammar) : Tokenless (known a pair).rule.pattern := by
  rw [known, pattern_ofDraft]
  refine tokenless_pairDraft h (Pattern.not_mem_escape (by decide) hname) ?_
  have hvalues : Draft.sources [.capture PairSlot.valid [.embed a.grammar a.groups],
      .raw pair.bound, .alternative, .capture .residual [.raw pair.residual]] =
      "((?:".toList ++ (a.grammar ++ ')' :: (')' :: pair.bound ++
        ("|(".toList ++ pair.residual ++ [')']))) := by
    have hopen : "((?:".toList = '(' :: "(?:".toList := rfl
    have hbetween : "|(".toList = ['|', '('] := rfl
    simp only [Draft.sources, Draft.source, List.cons_append, List.nil_append, List.append_nil,
      List.append_assoc, hopen, hbetween]
  have hresidual : '_' ∉ "|(".toList ++ pair.residual ++ [')'] :=
    not_mem_around (by decide) h.residual (by decide)
  have hbehind : '_' ∉ ')' :: pair.bound ++ ("|(".toList ++ pair.residual ++ [')']) := by
    rw [List.cons_append, List.mem_cons, List.mem_append, not_or, not_or]
    exact ⟨by decide, h.bound, hresidual⟩
  rw [hvalues, Tokenless.append_of_not_mem (by decide), Tokenless.break_iff (by decide)]
  exact ⟨hgrammar, .of_not_mem hbehind⟩

theorem tokenless_generic (h : pair.Plain) : Tokenless (generic pair).rule.pattern := by
  rw [generic, pattern_ofDraft]
  refine tokenless_pairDraft h (by decide) (.of_not_mem ?_)
  have hvalues : Draft.sources [.capture PairSlot.residual [.raw pair.residual]] =
      ['('] ++ pair.residual ++ [')'] := by
    simp only [Draft.sources, Draft.source, List.cons_append, List.nil_append, List.append_nil]
  rw [hvalues]
  exact not_mem_around (by decide) h.residual (by decide)

theorem synthesize_ne_nil (table : AttributeTable) (pair : PairGrammar) (validation : Validation) :
    synthesize table pair validation ≠ [] := by
  cases validation <;> simp [synthesize]

theorem tokenless_synthesize {table : AttributeTable} (h : pair.Plain)
    (htable : table.Checked) (hgrammars : ∀ a ∈ table.attributes, Tokenless a.grammar)
    {validation : Validation} {fragment : Fragment}
    (hmem : fragment ∈ synthesize table pair validation) :
    Tokenless fragment.rule.pattern := by
  have hgeneric := tokenless_generic h
  cases validation with
  | lenient =>
      cases List.mem_singleton.1 hmem
      exact hgeneric
  | strict =>
      rcases List.mem_append.1 hmem with hmem | hmem
      · obtain ⟨a, ha, rfl⟩ := List.mem_map.1 hmem
        exact tokenless_known h (Words.not_mem_of_spells_hyphenated (htable a ha))
          (hgrammars a ha)
      · cases List.mem_singleton.1 hmem
        exact hgeneric

end Fragment

end Highlight
