import Highlight.Json.Number
import Highlight.Proofs.Outcome

/-!
The parts of a number. A fraction is a point and digits, an exponent a mark and digits; a part is
left out just where nothing that would begin it stands next.
-/

namespace Highlight.Json.Numeral

def NoDigit (rest : Text) : Prop := ∀ c ∈ rest.head?, c.isDigit = false

structure IsDigits (digits : Text) : Prop where
  ne_nil : digits ≠ []
  isDigit : ∀ c ∈ digits, c.isDigit = true

def IsMark (mark : Text) : Prop :=
  mark ∈ [['e'], ['E'], ['e', '+'], ['e', '-'], ['E', '+'], ['E', '-']]

def NoMark (rest : Text) : Prop := rest.head? ≠ some 'e' ∧ rest.head? ≠ some 'E'

variable {text rest digits mark : Text}

theorem IsMark.exists_cons (h : IsMark mark) :
    ∃ c sign, mark = c :: sign ∧ (c = 'e' ∨ c = 'E') := by
  simp only [IsMark, List.mem_cons, List.not_mem_nil, or_false] at h
  rcases h with rfl | rfl | rfl | rfl | rfl | rfl <;> exact ⟨_, _, rfl, by decide⟩

theorem takeWhile_digits (h : ∀ c ∈ digits, c.isDigit = true) (hrest : NoDigit rest) :
    (digits ++ rest).takeWhile Char.isDigit = digits := by
  rw [List.takeWhile_append_of_pos h]
  cases rest with
  | nil => exact List.append_nil digits
  | cons c rest =>
      have hc : c.isDigit = false := hrest c rfl
      rw [List.takeWhile_cons_of_neg (by simp [hc]), List.append_nil]

theorem dropWhile_digits (h : ∀ c ∈ digits, c.isDigit = true) (hrest : NoDigit rest) :
    (digits ++ rest).dropWhile Char.isDigit = rest := by
  rw [List.dropWhile_append_of_pos h]
  cases rest with
  | nil => rfl
  | cons c rest =>
      have hc : c.isDigit = false := hrest c rfl
      exact List.dropWhile_cons_of_neg (by simp [hc])

theorem isDigit_of_mem_takeWhile (text : Text) :
    ∀ c ∈ text.takeWhile Char.isDigit, c.isDigit = true :=
  List.all_eq_true.1 List.all_takeWhile

theorem noDigit_dropWhile (text : Text) : NoDigit (text.dropWhile Char.isDigit) := by
  intro c hc
  have h := List.head?_dropWhile_not Char.isDigit text
  rw [Option.mem_def.1 hc] at h
  simpa using h

theorem IsDigits.exists_cons (h : IsDigits digits) :
    ∃ c rest, digits = c :: rest ∧ c.isDigit = true := by
  obtain ⟨c, rest, rfl⟩ := List.exists_cons_of_ne_nil h.ne_nil
  exact ⟨c, rest, rfl, h.isDigit c List.mem_cons_self⟩

theorem readFraction?_eq_none_iff :
    readFraction? text = some (none, rest) ↔ text = rest ∧ rest.head? ≠ some '.' := by
  simp only [readFraction?]
  split
  · next text =>
      split
      all_goals
        refine ⟨nofun, ?_⟩
        intro hall
        obtain ⟨rfl, hpoint⟩ := hall
        exact absurd rfl hpoint
  · next hpoint =>
      rw [Option.some.injEq, Prod.mk.injEq]
      constructor
      · intro hall
        obtain ⟨-, rfl⟩ := hall
        refine ⟨rfl, fun hhead => ?_⟩
        obtain ⟨after, rfl⟩ := List.head?_eq_some_iff.1 hhead
        exact hpoint after rfl
      · intro hall
        obtain ⟨rfl, -⟩ := hall
        exact ⟨rfl, rfl⟩

theorem readFraction?_eq_some_iff : readFraction? text = some (some digits, rest) ↔
    text = '.' :: (digits ++ rest) ∧ IsDigits digits ∧ NoDigit rest := by
  constructor
  · intro h
    simp only [readFraction?] at h
    split at h
    · next text =>
        split at h
        · cases h
        · next hne =>
            cases h
            refine ⟨by rw [List.takeWhile_append_dropWhile], ⟨?_, isDigit_of_mem_takeWhile text⟩,
              noDigit_dropWhile text⟩
            simpa using hne
    · cases h
  · intro hall
    obtain ⟨rfl, hdigits, hrest⟩ := hall
    have hne : digits.isEmpty = false := by simpa using hdigits.ne_nil
    simp only [readFraction?, takeWhile_digits hdigits.isDigit hrest,
      dropWhile_digits hdigits.isDigit hrest, hne, Bool.false_eq_true, if_false]

theorem exponentMark?_eq_none_iff : exponentMark? text = none ↔ NoMark text := by
  unfold exponentMark? NoMark
  split
  · next c d text =>
      by_cases hc : c = 'e' ∨ c = 'E'
      · by_cases hd : d = '+' ∨ d = '-' <;> simp [hc, hd, ← not_or]
      · simpa [hc] using not_or.1 hc
  · next c =>
      by_cases hc : c = 'e' ∨ c = 'E'
      · simp [hc, ← not_or]
      · simpa [hc] using not_or.1 hc
  · simp

theorem isMark_of_exponentMark? (h : exponentMark? text = some (mark, rest)) :
    IsMark mark ∧ text = mark ++ rest := by
  simp only [exponentMark?] at h
  split at h
  · split at h
    · next hc =>
        split at h
        · next hd =>
            cases h
            rcases (by simpa using hc) with rfl | rfl <;>
              rcases (by simpa using hd) with rfl | rfl <;> exact ⟨by simp [IsMark], rfl⟩
        · cases h
          rcases (by simpa using hc) with rfl | rfl <;> exact ⟨by simp [IsMark], rfl⟩
    · cases h
  · split at h
    · next hc =>
        cases h
        rcases (by simpa using hc) with rfl | rfl <;> exact ⟨by simp [IsMark], rfl⟩
    · cases h
  · cases h

theorem exponentMark?_append (hmark : IsMark mark) (hdigits : IsDigits digits) (rest : Text) :
    exponentMark? (mark ++ (digits ++ rest)) = some (mark, digits ++ rest) := by
  obtain ⟨c, more, rfl, hc⟩ := hdigits.exists_cons
  have hplus : c ≠ '+' := by
    intro heq
    subst heq
    cases hc
  have hminus : c ≠ '-' := by
    intro heq
    subst heq
    cases hc
  simp only [IsMark, List.mem_cons, List.not_mem_nil, or_false] at hmark
  rcases hmark with rfl | rfl | rfl | rfl | rfl | rfl <;> simp [exponentMark?, hplus, hminus]

theorem readExponent?_eq_none_iff :
    readExponent? text = some (none, rest) ↔ text = rest ∧ NoMark rest := by
  rw [readExponent?]
  split
  · next mark after hmark =>
      have hne : ¬NoMark text := by simp [← exponentMark?_eq_none_iff, hmark]
      split
      all_goals
        refine ⟨nofun, ?_⟩
        intro hall
        obtain ⟨rfl, h⟩ := hall
        exact absurd h hne
  · next hmark =>
      rw [Option.some.injEq, Prod.mk.injEq]
      constructor
      · intro hall
        obtain ⟨-, rfl⟩ := hall
        exact ⟨rfl, exponentMark?_eq_none_iff.1 hmark⟩
      · intro hall
        obtain ⟨rfl, -⟩ := hall
        exact ⟨rfl, rfl⟩

theorem readExponent?_eq_some_iff : readExponent? text = some (some (mark, digits), rest) ↔
    text = mark ++ (digits ++ rest) ∧ IsMark mark ∧ IsDigits digits ∧ NoDigit rest := by
  constructor
  · intro h
    rw [readExponent?] at h
    split at h
    · next after hread =>
        obtain ⟨hmark, rfl⟩ := isMark_of_exponentMark? hread
        split at h
        · cases h
        · next hne =>
            cases h
            refine ⟨by rw [List.takeWhile_append_dropWhile], hmark,
              ⟨?_, isDigit_of_mem_takeWhile after⟩, noDigit_dropWhile after⟩
            simpa using hne
    · cases h
  · intro hall
    obtain ⟨rfl, hmark, hdigits, hrest⟩ := hall
    have hne : digits.isEmpty = false := by simpa using hdigits.ne_nil
    simp only [readExponent?, exponentMark?_append hmark hdigits,
      takeWhile_digits hdigits.isDigit hrest, dropWhile_digits hdigits.isDigit hrest, hne,
      Bool.false_eq_true, if_false]

end Highlight.Json.Numeral
