import Highlight.Pattern.Escape
import Highlight.Proofs.Outcome

/-!
Escaped texts. What an escaped text begins with and consists of, and what the reader of an escape
makes of it.
-/

namespace Highlight.Pattern

variable {c : Char} {text : Text}

theorem escape_cons_of_isMeta (hc : isMeta c) (text : Text) :
    escape (c :: text) = ['\\', c] ++ escape text := by
  rw [escape, List.flatMap_cons, escapeChar, if_pos hc]
  rfl

theorem escape_cons_of_not_isMeta (hc : ¬isMeta c) (text : Text) :
    escape (c :: text) = [c] ++ escape text := by
  rw [escape, List.flatMap_cons, escapeChar, if_neg hc]
  rfl

theorem escape_append (front back : Text) : escape (front ++ back) = escape front ++ escape back :=
  List.flatMap_append

theorem escape_ne_nil (h : text ≠ []) : escape text ≠ [] := by
  obtain ⟨c, text, rfl⟩ := List.exists_cons_of_ne_nil h
  by_cases hc : isMeta c
  · rw [escape_cons_of_isMeta hc]
    exact List.cons_ne_nil _ _
  · rw [escape_cons_of_not_isMeta hc]
    exact List.cons_ne_nil _ _

/-- An escaped text begins with no character that needs to be escaped, save the backslash. -/
theorem head?_escape_ne (hmeta : isMeta c) (hslash : c ≠ '\\') (text : Text) :
    (escape text).head? ≠ some c := by
  cases text with
  | nil => exact nofun
  | cons d text =>
      by_cases hd : isMeta d
      · rw [escape_cons_of_isMeta hd]
        intro h
        exact hslash (Option.some.inj h).symm
      · rw [escape_cons_of_not_isMeta hd]
        intro h
        cases h
        exact hd hmeta

theorem not_mem_escape (hslash : c ≠ '\\') (h : c ∉ text) : c ∉ escape text := by
  intro hmem
  obtain ⟨d, hd, hc⟩ := List.mem_flatMap.1 hmem
  rw [escapeChar] at hc
  split at hc
  · obtain heq | heq : c = '\\' ∨ c = d := by simpa using hc
    · exact hslash heq
    · exact h (heq ▸ hd)
  · obtain rfl : c = d := by simpa using hc
    exact h hd

theorem isBlank_of_isMeta (hc : isMeta c) : isBlank c = false := by
  have hmeta : ∀ d ∈ "\\.+*?()|[]\x7b\x7d^$#&-~".toList, isBlank d = false :=
    forall_mem_of_all (by decide)
  exact hmeta c (of_decide_eq_true hc)

theorem readEscape_of_isMeta (hc : isMeta c) (verbose : Bool) (text : Text) :
    readEscape verbose (c :: text) = .ok (.literal c false, text) := by
  have hletters : ∀ d ∈ "xuUpPb".toList, c ≠ d := by
    have hplain : ∀ d ∈ "xuUpPb".toList, ¬isMeta d := forall_mem_of_all (by decide)
    rintro d hd rfl
    exact hplain _ hd hc
  have hescapable : isEscapable c := by simp [isEscapable, hc]
  simp only [readEscape, hescapable, if_true]
  repeat rw [if_neg (hletters _ (by decide))]

end Highlight.Pattern
