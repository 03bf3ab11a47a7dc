import Highlight.Proofs.Json.NumberParts

/-!
Which numbers are read off a text. A number is its spelling, and of the text behind it only the
first character matters: it may not carry the number on.
-/

namespace Highlight.Json.Numeral

structure WellFormed (n : Numeral) : Prop where
  whole : ∀ c ∈ n.whole, c.isDigit = true
  isWhole : isWhole n.whole = true
  fraction : ∀ digits, n.fraction = some digits → IsDigits digits
  exponent : ∀ mark digits, n.exponent = some (mark, digits) → IsMark mark ∧ IsDigits digits

structure Follows (n : Numeral) (rest : Text) : Prop where
  digit : NoDigit rest
  point : n.fraction = none → n.exponent = none → rest.head? ≠ some '.'
  mark : n.exponent = none → NoMark rest

theorem Follows.of_head? {n : Numeral} {rest rest' : Text} (h : n.Follows rest)
    (hhead : rest'.head? = rest.head?) : n.Follows rest' := by
  refine ⟨?_, ?_, ?_⟩
  · simpa only [NoDigit, hhead] using h.digit
  · simpa only [hhead] using h.point
  · simpa only [NoMark, hhead] using h.mark

def spellFraction : Option Text → Text
  | some digits => '.' :: digits
  | none => []

def spellExponent : Option (Text × Text) → Text
  | some (mark, digits) => mark ++ digits
  | none => []

def spellBody (n : Numeral) : Text :=
  n.whole ++ (spellFraction n.fraction ++ spellExponent n.exponent)

theorem spelling_eq (n : Numeral) :
    n.spelling = (if n.negative then ['-'] else []) ++ n.spellBody := by
  obtain ⟨negative, whole, fraction, exponent⟩ := n
  cases fraction <;> cases exponent <;>
    simp [spelling, spellBody, spellFraction, spellExponent]

variable {n : Numeral} {text rest : Text}

theorem noDigit_spellExponent (h : n.WellFormed) (hrest : n.Follows rest) :
    NoDigit (spellExponent n.exponent ++ rest) := by
  cases hexponent : n.exponent with
  | none => exact hrest.digit
  | some parts =>
      obtain ⟨mark, digits⟩ := parts
      obtain ⟨c, sign, rfl, hc⟩ := (h.exponent mark digits hexponent).1.exists_cons
      intro d hd
      cases Option.some.inj hd
      rcases hc with rfl | rfl <;> rfl

theorem readExponent?_spell (h : n.WellFormed) (hrest : n.Follows rest) :
    readExponent? (spellExponent n.exponent ++ rest) = some (n.exponent, rest) := by
  cases hexponent : n.exponent with
  | none => exact readExponent?_eq_none_iff.2 ⟨rfl, hrest.mark hexponent⟩
  | some parts =>
      obtain ⟨mark, digits⟩ := parts
      obtain ⟨hmark, hdigits⟩ := h.exponent mark digits hexponent
      exact readExponent?_eq_some_iff.2
        ⟨List.append_assoc _ _ _, hmark, hdigits, hrest.digit⟩

theorem noDigit_spellFraction (h : n.WellFormed) (hrest : n.Follows rest) :
    NoDigit (spellFraction n.fraction ++ (spellExponent n.exponent ++ rest)) := by
  cases n.fraction with
  | none => exact noDigit_spellExponent h hrest
  | some digits => exact fun c hc => Option.some.inj hc ▸ rfl

theorem readFraction?_spell (h : n.WellFormed) (hrest : n.Follows rest) :
    readFraction? (spellFraction n.fraction ++ (spellExponent n.exponent ++ rest)) =
      some (n.fraction, spellExponent n.exponent ++ rest) := by
  cases hfraction : n.fraction with
  | some digits =>
      exact readFraction?_eq_some_iff.2
        ⟨rfl, h.fraction digits hfraction, noDigit_spellExponent h hrest⟩
  | none =>
      refine readFraction?_eq_none_iff.2 ⟨rfl, ?_⟩
      cases hexponent : n.exponent with
      | none => exact hrest.point hfraction hexponent
      | some parts =>
          obtain ⟨mark, digits⟩ := parts
          obtain ⟨c, sign, rfl, hc⟩ := (h.exponent mark digits hexponent).1.exists_cons
          intro hpoint
          cases Option.some.inj hpoint
          rcases hc with hc | hc <;> cases hc

theorem WellFormed.exists_cons_whole (h : n.WellFormed) :
    ∃ c whole, n.whole = c :: whole ∧ c.isDigit = true := by
  have hisWhole := h.isWhole
  cases hwhole : n.whole with
  | nil =>
      rw [hwhole] at hisWhole
      cases hisWhole
  | cons c whole => exact ⟨c, whole, rfl, h.whole c (hwhole ▸ List.mem_cons_self)⟩

theorem head?_spelling (h : n.WellFormed) (rest : Text) :
    (n.spelling ++ rest).head? = some '-' ↔ n.negative = true := by
  rw [spelling_eq]
  cases n.negative with
  | true => exact ⟨fun _ => rfl, fun _ => rfl⟩
  | false =>
      refine ⟨fun hhead => ?_, nofun⟩
      obtain ⟨c, whole, hwhole, hc⟩ := h.exists_cons_whole
      rw [spellBody, hwhole] at hhead
      cases Option.some.inj hhead
      cases hc

theorem read?_spelling (h : n.WellFormed) (hrest : n.Follows rest) :
    read? (n.spelling ++ rest) = some (n, rest) := by
  have htail := noDigit_spellFraction h hrest
  have hbody : (if (n.spelling ++ rest).head? = some '-' then (n.spelling ++ rest).tail
      else n.spelling ++ rest) =
      n.whole ++ (spellFraction n.fraction ++ (spellExponent n.exponent ++ rest)) := by
    by_cases hsign : n.negative = true
    · rw [if_pos ((head?_spelling h rest).2 hsign), spelling_eq, if_pos hsign]
      simp [spellBody]
    · rw [if_neg fun hhead => hsign ((head?_spelling h rest).1 hhead), spelling_eq, if_neg hsign]
      simp [spellBody]
  have hnegative : decide ((n.spelling ++ rest).head? = some '-') = n.negative := by
    simp only [head?_spelling h, Bool.decide_eq_true]
  simp only [read?, hbody, hnegative, takeWhile_digits h.whole htail,
    dropWhile_digits h.whole htail, h.isWhole, if_true, readFraction?_spell h hrest,
    readExponent?_spell h hrest]

theorem follows_of_read (negative : Bool) {whole front back : Text} {fraction : Option Text}
    {exponent : Option (Text × Text)} (hwhole : ∀ c ∈ whole, c.isDigit = true)
    (hisWhole : isWhole whole = true) (hfront : NoDigit front)
    (hfraction : readFraction? front = some (fraction, back))
    (hexponent : readExponent? back = some (exponent, rest)) :
    front = spellFraction fraction ++ (spellExponent exponent ++ rest) ∧
      WellFormed ⟨negative, whole, fraction, exponent⟩ ∧
      Follows ⟨negative, whole, fraction, exponent⟩ rest := by
  have hback : back = spellExponent exponent ++ rest ∧
      (∀ mark digits, exponent = some (mark, digits) → IsMark mark ∧ IsDigits digits) ∧
      (NoDigit back → NoDigit rest) ∧ (exponent = none → NoMark rest) := by
    cases exponent with
    | none =>
        obtain ⟨rfl, hmark⟩ := readExponent?_eq_none_iff.1 hexponent
        exact ⟨rfl, nofun, id, fun _ => hmark⟩
    | some parts =>
        obtain ⟨mark, digits⟩ := parts
        obtain ⟨rfl, hmark, hdigits, hrest⟩ := readExponent?_eq_some_iff.1 hexponent
        refine ⟨(List.append_assoc _ _ _).symm, ?_, fun _ => hrest, nofun⟩
        rintro _ _ ⟨⟩
        exact ⟨hmark, hdigits⟩
  obtain ⟨hback, hparts, hdigit, hmark⟩ := hback
  cases fraction with
  | none =>
      obtain ⟨rfl, hpoint⟩ := readFraction?_eq_none_iff.1 hfraction
      refine ⟨hback, ⟨hwhole, hisWhole, nofun, hparts⟩, ⟨hdigit hfront, fun _ hnone => ?_, hmark⟩⟩
      cases hnone
      rwa [hback] at hpoint
  | some digits =>
      obtain ⟨rfl, hdigits, hbackDigit⟩ := readFraction?_eq_some_iff.1 hfraction
      refine ⟨by rw [hback]; rfl, ⟨hwhole, hisWhole, ?_, hparts⟩, ⟨hdigit hbackDigit, nofun, hmark⟩⟩
      rintro _ ⟨⟩
      exact hdigits

theorem of_read? (h : read? text = some (n, rest)) :
    text = n.spelling ++ rest ∧ n.WellFormed ∧ n.Follows rest := by
  simp only [read?] at h
  generalize hbody : (if text.head? = some '-' then text.tail else text) = body at h
  split at h
  · next hwhole =>
      split at h
      · next hfraction =>
          split at h
          · next hexponent =>
              cases h
              obtain ⟨hfront, hwell, hfollows⟩ := follows_of_read (text.head? = some '-')
                (isDigit_of_mem_takeWhile body) hwhole (noDigit_dropWhile body) hfraction hexponent
              refine ⟨?_, hwell, hfollows⟩
              have hsplit := List.takeWhile_append_dropWhile (p := Char.isDigit) (l := body)
              rw [spelling_eq, spellBody, List.append_assoc, List.append_assoc, List.append_assoc,
                ← hfront, hsplit, ← hbody]
              by_cases hhead : text.head? = some '-'
              · obtain ⟨after, rfl⟩ := List.head?_eq_some_iff.1 hhead
                rfl
              · simp [hhead]
          · cases h
      · cases h
  · cases h

def isNumberChar (c : Char) : Bool := c.isDigit || c ∈ ['-', '+', '.', 'e', 'E']

theorem isNumberChar_of_isDigit {c : Char} (h : c.isDigit = true) : isNumberChar c = true := by
  rw [isNumberChar, h, Bool.true_or]

theorem isNumberChar_of_mem_spelling (h : n.WellFormed) :
    ∀ c ∈ n.spelling, isNumberChar c = true := by
  have hmark {mark : Text} (hmark : IsMark mark) : ∀ c ∈ mark, isNumberChar c = true := by
    simp only [IsMark, List.mem_cons, List.not_mem_nil, or_false] at hmark
    rcases hmark with rfl | rfl | rfl | rfl | rfl | rfl <;>
      exact forall_mem_of_all (by decide)
  have hwhole : ∀ c ∈ n.whole, isNumberChar c = true :=
    fun c hc => isNumberChar_of_isDigit (h.whole c hc)
  have hfraction : ∀ c ∈ spellFraction n.fraction, isNumberChar c = true := by
    intro c hc
    cases hdigits : n.fraction with
    | none =>
        rw [hdigits] at hc
        cases hc
    | some digits =>
        rw [hdigits] at hc
        rcases List.mem_cons.1 hc with rfl | hc
        · rfl
        · exact isNumberChar_of_isDigit ((h.fraction digits hdigits).isDigit c hc)
  have hexponent : ∀ c ∈ spellExponent n.exponent, isNumberChar c = true := by
    intro c hc
    cases hparts : n.exponent with
    | none =>
        rw [hparts] at hc
        cases hc
    | some parts =>
        obtain ⟨mark, digits⟩ := parts
        rw [hparts] at hc
        obtain ⟨hm, hdigits⟩ := h.exponent mark digits hparts
        rcases List.mem_append.1 hc with hc | hc
        · exact hmark hm c hc
        · exact isNumberChar_of_isDigit (hdigits.isDigit c hc)
  intro c hc
  rw [spelling_eq] at hc
  rcases List.mem_append.1 hc with hsign | hc
  · cases hnegative : n.negative <;> rw [hnegative] at hsign
    · cases hsign
    · cases List.mem_singleton.1 hsign
      rfl
  · rcases List.mem_append.1 hc with hc | hc
    · exact hwhole c hc
    · rcases List.mem_append.1 hc with hc | hc
      · exact hfraction c hc
      · exact hexponent c hc

theorem exists_cons_spelling (h : n.WellFormed) :
    ∃ c rest, n.spelling = c :: rest ∧ (c = '-' ∨ c.isDigit = true) := by
  cases hnegative : n.negative with
  | true => exact ⟨'-', n.spellBody, by rw [spelling_eq, hnegative]; rfl, .inl rfl⟩
  | false =>
      obtain ⟨c, whole, hwhole, hc⟩ := h.exists_cons_whole
      refine ⟨c, whole ++ (spellFraction n.fraction ++ spellExponent n.exponent), ?_, .inr hc⟩
      rw [spelling_eq, hnegative, spellBody, hwhole]
      rfl

theorem spelling_ne_nil (h : n.WellFormed) : n.spelling ≠ [] := by
  obtain ⟨c, rest, hspelling, -⟩ := exists_cons_spelling h
  rw [hspelling]
  exact List.cons_ne_nil c rest

theorem follows_of_head? (n : Numeral) (h : ∀ c ∈ rest.head?, isNumberChar c = false) :
    n.Follows rest := by
  have hne {c : Char} (hc : isNumberChar c = true) : rest.head? ≠ some c := by
    intro hhead
    rw [h c hhead] at hc
    cases hc
  refine ⟨fun c hc => ?_, fun _ _ => hne rfl, fun _ => ⟨hne rfl, hne rfl⟩⟩
  have hnumber := h c hc
  rw [isNumberChar, Bool.or_eq_false_iff] at hnumber
  exact hnumber.1

/-- A number is read off a text just when its spelling stands there and is not carried on. -/
theorem read?_eq_some_iff : read? text = some (n, rest) ↔
    text = n.spelling ++ rest ∧ n.WellFormed ∧ n.Follows rest := by
  constructor
  · exact of_read?
  · intro hall
    obtain ⟨rfl, hwell, hfollows⟩ := hall
    exact read?_spelling hwell hfollows

end Highlight.Json.Numeral
