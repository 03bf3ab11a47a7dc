import Highlight.Proofs.Json.String
import Highlight.Proofs.Token

/-!
Texts without tokens. Nothing that is shaped like a placeholder comes about where texts meet at a
character that is in no token, or where a text is escaped for a JSON string; and no placeholder
contains another.
-/

namespace Highlight

/-- A text that holds nothing of the shape of a placeholder. -/
def Tokenless (text : Text) : Prop :=
  ∀ name, isPlaceholderName name = true → ¬slotToken name <:+: text

variable {b c : Char} {front text rest name other : Text}

theorem read?_slotToken (hname : isPlaceholderName name = true) (rest : Text) :
    TokenShape.any.read? (slotToken name ++ rest) = some (name, rest) := by
  obtain ⟨hfirst, hspent⟩ := isPlaceholderName_iff.1 hname
  exact TokenShape.read?_spell_append (t := TokenShape.any) ⟨[], rfl⟩ hfirst hspent rest

theorem isPlaceholderName_of_read? (h : TokenShape.any.read? text = some (name, rest)) :
    isPlaceholderName name = true :=
  isPlaceholderName_iff.2 (TokenShape.name_of_read? h)

theorem tokenless_iff : Tokenless text ↔ TokenShape.any.first? text = none := by
  constructor
  · intro h
    rw [TokenShape.first?_eq_none_iff]
    intro piece hpiece htoken
    cases piece with
    | char c => exact htoken
    | token name =>
        obtain ⟨-, after, rest, -, hread⟩ := TokenShape.exists_read?_of_mem_scan hpiece
        exact h name (isPlaceholderName_of_read? hread) (TokenShape.infix_of_mem_scan hpiece)
  · intro h name hname
    exact not_infix_slotToken h hname

namespace Tokenless

theorem cons_iff : Tokenless (c :: text) ↔
    TokenShape.any.read? (c :: text) = none ∧ Tokenless text := by
  simp only [tokenless_iff, TokenShape.first?_eq_none_iff]
  cases hread : TokenShape.any.read? (c :: text) with
  | none =>
      rw [TokenShape.scan_of_none hread, List.forall_mem_cons]
      exact and_congr_left fun _ => iff_of_true id rfl
  | some pair =>
      rw [TokenShape.scan_of_some hread, List.forall_mem_cons]
      exact iff_of_false (fun h => h.1 trivial) fun h => Option.some_ne_none _ h.1

theorem cons_of_ne (h : c ≠ '_' ∨ text.head? ≠ some '_') :
    Tokenless (c :: text) ↔ Tokenless text := by
  rw [cons_iff]
  refine and_iff_right ?_
  have hopening : Text.after? TokenShape.any.opening (c :: text) = none := by
    refine Option.eq_none_iff_forall_ne_some.2 fun rest hrest => ?_
    cases Text.after?_eq_some_iff.1 hrest
    rcases h with h | h <;> exact h rfl
  simp only [TokenShape.read?, hopening]

theorem append_of_not_mem (h : '_' ∉ front) : Tokenless (front ++ text) ↔ Tokenless text := by
  induction front with
  | nil => rfl
  | cons c front ih =>
      rw [List.mem_cons, not_or] at h
      rw [List.cons_append, cons_of_ne (.inl (Ne.symm h.1)), ih h.2]

theorem of_not_mem (h : '_' ∉ text) : Tokenless text := by
  have hnil : Tokenless [] := tokenless_iff.2 (by decide +kernel)
  rw [← List.append_nil text]
  exact (append_of_not_mem h).2 hnil

theorem break_iff (hb : isTokenChar b = false) :
    Tokenless (front ++ b :: rest) ↔ Tokenless front ∧ Tokenless rest := by
  simp only [tokenless_iff, TokenShape.first?_eq_none_iff,
    TokenShape.scan_append_break solid_any hb, List.forall_mem_append, List.forall_mem_cons]
  exact and_congr_right fun _ => and_iff_right id

/-- What an escaped text begins with is not escaped, as far as it consists of token characters. -/
theorem exists_append_of_escape (hfront : ∀ c ∈ front, isTokenChar c = true)
    (h : Json.escape text = front ++ rest) : ∃ after, text = front ++ after := by
  induction front generalizing text with
  | nil => exact ⟨text, rfl⟩
  | cons c front ih =>
      obtain ⟨hc, hrest⟩ := List.forall_mem_cons.1 hfront
      cases text with
      | nil => cases h
      | cons d text =>
          rw [Json.escape, List.flatMap_cons] at h
          rcases Json.escapeChar_cases d with ⟨-, heq⟩ | ⟨used, -, heq⟩
          · rw [heq] at h
            obtain ⟨rfl, htext⟩ := List.cons.inj h
            obtain ⟨after, rfl⟩ := ih hrest htext
            exact ⟨after, rfl⟩
          · rw [heq] at h
            cases (List.cons.inj h).1
            cases hc

/-- The string for a text holds no token that is not in the text. -/
theorem escape (h : Tokenless text) : Tokenless (Json.escape text) := by
  induction text with
  | nil => exact h
  | cons c text ih =>
      obtain ⟨hread, htext⟩ := cons_iff.1 h
      rcases Json.escapeChar_cases c with ⟨-, heq⟩ | ⟨used, hused, heq⟩
      · have hescape : Json.escape (c :: text) = c :: Json.escape text := by
          rw [Json.escape, List.flatMap_cons, heq]
          rfl
        rw [hescape, cons_iff, Option.eq_none_iff_forall_ne_some]
        refine ⟨fun ⟨name, rest⟩ hescaped => ?_, ih htext⟩
        obtain ⟨-, hspell⟩ := TokenShape.eq_spell_of_read? hescaped
        obtain ⟨after, hafter⟩ := exists_append_of_escape
          (TokenShape.isTokenChar_spell solid_any hescaped) (hescape.trans hspell)
        rw [hafter] at hread
        cases (read?_slotToken (isPlaceholderName_of_read? hescaped) after).symm.trans hread
      · rw [Json.escape, List.flatMap_cons, heq]
        refine (append_of_not_mem ?_).2 (ih htext)
        rw [List.mem_cons, not_or]
        exact ⟨by decide, hused.solid⟩

theorem closing (h : (Words.upper.split text).2 = []) : Tokenless (text ++ "__".toList) := by
  induction text with
  | nil => exact tokenless_iff.2 (by decide +kernel)
  | cons c text ih =>
      rw [Words.split] at h
      split at h
      · next hc =>
          refine (cons_of_ne ?_).2 (ih h)
          -- behind a joint there is a letter, and so no opening
          by_cases hjoint : c = '_'
          · refine .inr fun hhead => ?_
            subst hjoint
            cases text with
            | nil => cases hc
            | cons d text =>
                cases hhead
                cases hc
          · exact .inl hjoint
      · cases h

end Tokenless

theorem eq_of_infix_slotToken (hname : isPlaceholderName name = true)
    (hother : isPlaceholderName other = true) (h : slotToken name <:+: slotToken other) :
    name = other := by
  obtain ⟨hfirst, hspent⟩ := isPlaceholderName_iff.1 hother
  obtain ⟨front, rest, h⟩ := h
  cases front with
  | nil =>
      have hread := read?_slotToken hother []
      rw [List.append_nil, ← h, List.nil_append, read?_slotToken hname] at hread
      cases hread
      rfl
  | cons c front =>
      have htail : front ++ slotToken name ++ rest = '_' :: (other ++ "__".toList) :=
        (List.cons.inj h).2
      have htokenless : Tokenless ('_' :: (other ++ "__".toList)) := by
        refine (Tokenless.cons_of_ne (.inr ?_)).2 (.closing hspent)
        cases other with
        | nil => cases hfirst
        | cons d other =>
            rintro heq
            cases heq
            cases hfirst
      exact absurd ⟨front, rest, htail⟩ (htokenless name hname)

end Highlight
