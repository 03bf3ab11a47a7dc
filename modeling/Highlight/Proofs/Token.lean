import Highlight.Proofs.Placeholder
import Highlight.Template.Content

/-!
Where tokens occur. A token that is spelled out is read back wherever it stands, so that a text in
which a scan finds nothing holds no token at all; and a style tag, like the inside of a slot, is a
token of the general shape.
-/

namespace Highlight

namespace Words

variable {w : Words} {text : Text}

theorem split_append_of_spent (h : (w.split text).2 = []) (rest : Text) :
    w.split (text ++ rest) = (text ++ (w.split rest).1, (w.split rest).2) := by
  induction text with
  | nil => rfl
  | cons c text ih =>
      simp only [split] at h
      split at h
      · next hc =>
          have hc' : (w.isLetter c || (w.isJoint c && (text ++ rest).head?.any w.isLetter)) = true := by
            cases text with
            | nil =>
                rw [List.head?_nil, Option.any_none, Bool.and_false, Bool.or_false] at hc
                rw [hc, Bool.true_or]
            | cons d text => exact hc
          rw [List.cons_append, split, if_pos hc', ih h]
          rfl
      · cases h

theorem split_split (w : Words) (text : Text) : (w.split (w.split text).1).2 = [] := by
  induction text with
  | nil => rfl
  | cons c text ih =>
      simp only [split]
      split
      · next hc =>
          have hc' : (w.isLetter c || (w.isJoint c && (w.split text).1.head?.any w.isLetter)) =
              true := by
            rw [Bool.or_eq_true, Bool.and_eq_true] at hc ⊢
            refine hc.imp id (And.imp id fun hhead => ?_)
            cases text with
            | nil => exact hhead
            | cons d text =>
                have hd : w.isLetter d = true := hhead
                simp [split, hd]
          rw [split, if_pos hc']
          exact ih
      · rfl

end Words

theorem isPlaceholderName_iff {name : Text} : isPlaceholderName name = true ↔
    name.head?.any Char.isUpper = true ∧ (Words.upper.split name).2 = [] := by
  rw [isPlaceholderName, Words.spells, Bool.and_eq_true, Bool.and_eq_true, List.isEmpty_iff]
  refine and_congr_right fun hhead => and_iff_right ?_
  cases name with
  | nil => cases hhead
  | cons c name =>
      have hc : c.isUpper = true := hhead
      exact congrArg (· || c.isDigit) hc

namespace TokenShape

variable {t : TokenShape} {text name rest : Text}

theorem name_of_read? (h : t.read? text = some (name, rest)) :
    name.head?.any t.isFirst = true ∧ (Words.upper.split name).2 = [] := by
  rw [read?] at h
  split at h
  · cases h
  · next inner hinner =>
      split at h
      · next hfirst =>
          split at h
          · cases h
          · cases h
            exact ⟨hfirst, Words.upper.split_split inner⟩
      · cases h

/-- A token is read back wherever it is spelled out; its closing ends the run of its name. -/
theorem read?_spell_append (hclosing : ∃ after, t.closing = '_' :: '_' :: after)
    (hfirst : name.head?.any t.isFirst = true) (hname : (Words.upper.split name).2 = [])
    (rest : Text) : t.read? (t.spell name ++ rest) = some (name, rest) := by
  obtain ⟨after, hclosing⟩ := hclosing
  have hend : Words.upper.split (t.closing ++ rest) = ([], t.closing ++ rest) := by
    rw [hclosing]
    rfl
  have hsplit : Words.upper.split (name ++ (t.closing ++ rest)) = (name, t.closing ++ rest) := by
    rw [Words.split_append_of_spent hname, hend, List.append_nil]
  have hopening : Text.after? t.opening (t.spell name ++ rest) =
      some (name ++ (t.closing ++ rest)) := by
    rw [Text.after?_eq_some_iff, spell, List.append_assoc, List.append_assoc]
  have hrest : Text.after? t.closing (t.closing ++ rest) = some rest :=
    Text.after?_eq_some_iff.2 rfl
  simp only [read?, hopening, hsplit, hfirst, if_true, hrest]

theorem exists_read?_of_mem_scan (h : .token name ∈ t.scan text) :
    ∃ front after rest, text = front ++ after ∧ t.read? after = some (name, rest) := by
  fun_induction scan t text with
  | case1 => cases h
  | case2 c text other after hread ih =>
      rcases List.mem_cons.1 h with heq | h
      · cases heq
        exact ⟨[], c :: text, after, rfl, hread⟩
      · obtain ⟨front, later, rest, rfl, hlater⟩ := ih h
        refine ⟨t.spell other ++ front, later, rest, ?_, hlater⟩
        rw [(eq_spell_of_read? hread).2, List.append_assoc]
  | case3 c text hread ih =>
      rcases List.mem_cons.1 h with heq | h
      · cases heq
      · obtain ⟨front, after, rest, rfl, hafter⟩ := ih h
        exact ⟨c :: front, after, rest, rfl, hafter⟩

theorem infix_of_mem_scan (h : .token name ∈ t.scan text) : t.spell name <:+: text := by
  obtain ⟨front, after, rest, rfl, hread⟩ := exists_read?_of_mem_scan h
  rw [(eq_spell_of_read? hread).2]
  exact ⟨front, rest, List.append_assoc _ _ _⟩

theorem read?_of_first?_eq_none {front : Text} (h : t.first? (front ++ rest) = none) :
    t.read? rest = none := by
  rw [first?_eq_none_iff] at h
  induction front with
  | nil =>
      rw [List.nil_append] at h
      refine Option.eq_none_iff_forall_ne_some.2 fun pair hread => ?_
      rw [scan_of_some hread] at h
      exact h _ List.mem_cons_self trivial
  | cons c front ih =>
      refine ih fun piece hpiece => ?_
      rw [List.cons_append] at h
      cases hread : t.read? (c :: (front ++ rest)) with
      | none =>
          rw [scan_of_none hread] at h
          exact h piece (List.mem_cons_of_mem _ hpiece)
      | some pair =>
          rw [scan_of_some hread] at h
          exact absurd trivial (h _ List.mem_cons_self)

end TokenShape

/-- A text in which nothing looks like a placeholder holds no spelled placeholder. -/
theorem not_infix_slotToken {text name : Text} (h : TokenShape.any.first? text = none)
    (hname : isPlaceholderName name = true) : ¬slotToken name <:+: text := by
  rintro ⟨front, rest, rfl⟩
  rw [List.append_assoc] at h
  obtain ⟨hfirst, hspent⟩ := isPlaceholderName_iff.1 hname
  have hread := TokenShape.read?_spell_append (t := TokenShape.any) ⟨[], rfl⟩ hfirst hspent rest
  cases (TokenShape.read?_of_first?_eq_none h).symm.trans hread

theorem spell_style (tag : Text) :
    TokenShape.style.spell tag = slotToken (stylePrefix ++ tag) := rfl

theorem spell_quoted (name : Text) :
    TokenShape.quoted.spell name = '"' :: (slotToken name ++ ['"']) := by
  simp [TokenShape.spell, TokenShape.quoted, slotToken, TokenShape.any]

theorem TokenShape.style_read?_eq_some_iff {text tag rest : Text} :
    style.read? text = some (tag, rest) ↔
      Words.upper.spells tag = true ∧ text = style.spell tag ++ rest := by
  rw [Words.spells, Bool.and_eq_true, List.isEmpty_iff]
  constructor
  · intro h
    exact ⟨name_of_read? h, (eq_spell_of_read? h).2⟩
  · rintro ⟨⟨hfirst, hspent⟩, rfl⟩
    exact read?_spell_append ⟨[], rfl⟩ hfirst hspent rest

/-- A tag is a placeholder name behind the prefix of style tags, even if it begins with a digit. -/
theorem isPlaceholderName_stylePrefix_iff {tag : Text} :
    isPlaceholderName (stylePrefix ++ tag) = true ↔ Words.upper.spells tag = true := by
  have hsplit : stylePrefix ++ tag = "STYLE".toList ++ '_' :: tag := rfl
  have hhead : (stylePrefix ++ tag).head?.any Char.isUpper = true := rfl
  rw [isPlaceholderName_iff, and_iff_right hhead, hsplit,
    Words.split_append_of_spent (by decide), Words.spells, Bool.and_eq_true, List.isEmpty_iff,
    Words.split]
  -- the joint behind the prefix is part of the name where a letter follows
  cases tag.head?.any Words.upper.isLetter with
  | true => exact (and_iff_right rfl).symm
  | false => exact iff_of_false (List.cons_ne_nil _ _) fun h => Bool.false_ne_true h.1

theorem isPlaceholderName_style {tag : Text} (h : isPlaceholderName tag = true) :
    isPlaceholderName (stylePrefix ++ tag) = true :=
  isPlaceholderName_stylePrefix_iff.2 (Bool.and_eq_true_iff.1 h).2

end Highlight
