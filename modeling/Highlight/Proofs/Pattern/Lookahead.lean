import Highlight.Pattern.Escape

/-!
How far the readers of a pattern look ahead. What a reader takes up off a text it also takes up off
a longer one, and leaves the longer rest; a few readers look at the character behind their part, so
that this holds only for what may follow a fragment that is pasted between parentheses.
-/

namespace Highlight.Pattern

/-- A text that cannot change how the text ahead of it is read: it begins with a closing
parenthesis, its first colon does not end the name of a class, and no question mark comes to stand
behind a comment that it ends. -/
structure Inert (tail : Text) : Prop where
  closing : ∃ rest, tail = ')' :: rest
  colon : ∀ name rest, cutAt? [':'] tail = some (name, rest) → rest.head? ≠ some ']'
  lazy : (skipFrom true tail).head? ≠ some '?'

theorem skipFrom_append {comment : Bool} {text : Text} (tail : Text)
    (h : skipFrom comment text ≠ []) :
    skipFrom comment (text ++ tail) = skipFrom comment text ++ tail := by
  fun_induction skipFrom comment text with
  | case1 => exact absurd rfl h
  | case2 c text ih => exact ih h
  | case3 c text hblank ih => simpa only [List.cons_append, skipFrom, hblank, if_true] using ih h
  | case4 text hblank ih => exact ih h
  | case5 c text hblank hhash =>
      simp only [List.cons_append, skipFrom, hblank, hhash, Bool.false_eq_true, if_false]

theorem skipFrom_idem (comment : Bool) (text : Text) :
    skipFrom false (skipFrom comment text) = skipFrom comment text := by
  fun_induction skipFrom comment text with
  | case1 => rfl
  | case2 c text ih | case3 c text hblank ih | case4 text hblank ih => exact ih
  | case5 c text hblank hhash => simp only [skipFrom, hblank, hhash, Bool.false_eq_true, if_false]

theorem skipFrom_comment {front : Text} (h : '\n' ∉ front) (text : Text) :
    skipFrom true (front ++ '\n' :: text) = skipFrom false text := by
  induction front with
  | nil => rfl
  | cons c front ih =>
      obtain ⟨hc, hfront⟩ : '\n' ≠ c ∧ '\n' ∉ front := by simpa using h
      simpa [skipFrom, Ne.symm hc] using ih hfront

theorem skipFrom_comment_eq_nil {text : Text} (h : '\n' ∉ text) : skipFrom true text = [] := by
  induction text with
  | nil => rfl
  | cons c text ih =>
      obtain ⟨hc, htext⟩ : '\n' ≠ c ∧ '\n' ∉ text := by simpa using h
      simpa [skipFrom, Ne.symm hc] using ih htext

theorem skip_nil (verbose : Bool) : skip verbose [] = [] := by cases verbose <;> rfl

theorem skip_append {verbose : Bool} {text : Text} (tail : Text) (h : skip verbose text ≠ []) :
    skip verbose (text ++ tail) = skip verbose text ++ tail := by
  cases verbose with
  | true => exact skipFrom_append tail h
  | false => rfl

/-- A text of blanks and comments leaves what follows it alone, or draws it into a comment that is
still open at its end. -/
theorem skipFrom_append_of_eq_nil {comment : Bool} {text : Text} (h : skipFrom comment text = []) :
    (∀ tail, skipFrom comment (text ++ tail) = skipFrom false tail) ∨
      ∀ tail, skipFrom comment (text ++ tail) = skipFrom true tail := by
  fun_induction skipFrom comment text with
  | case1 comment =>
      cases comment with
      | true => exact .inr fun _ => rfl
      | false => exact .inl fun _ => rfl
  | case2 c text ih => exact ih h
  | case3 c text hblank ih => simpa only [List.cons_append, skipFrom, hblank, if_true] using ih h
  | case4 text hblank ih => exact ih h
  | case5 => exact absurd h (List.cons_ne_nil _ _)

theorem skip_append_of_eq_nil {verbose : Bool} {text : Text} (h : skip verbose text = []) :
    (∀ tail, skip verbose (text ++ tail) = skip verbose tail) ∨
      verbose = true ∧ ∀ tail, skip verbose (text ++ tail) = skipFrom true tail := by
  cases verbose with
  | true => exact (skipFrom_append_of_eq_nil h).imp id fun h => ⟨rfl, h⟩
  | false =>
      left
      intro tail
      rw [show text = [] from h]
      rfl

theorem Inert.skip {tail : Text} (htail : Inert tail) (verbose : Bool) :
    skip verbose tail = tail := by
  obtain ⟨rest, rfl⟩ := htail.closing
  cases verbose <;> rfl

theorem Inert.head?_ne_question {tail : Text} (htail : Inert tail) : tail.head? ≠ some '?' := by
  obtain ⟨rest, rfl⟩ := htail.closing
  simp

theorem peekFrom?_append {comment : Bool} {text : Text} {c : Char} (tail : Text)
    (h : peekFrom? comment text = some c) : peekFrom? comment (text ++ tail) = some c := by
  fun_induction peekFrom? comment text with
  | case1 => cases h
  | case2 comment d text hblank ih =>
      simpa only [List.cons_append, peekFrom?, hblank, if_true] using ih h
  | case3 comment d text hblank hhash ih =>
      simpa only [List.cons_append, peekFrom?, hblank, hhash, Bool.false_eq_true, if_false,
        if_true] using ih h
  | case4 comment d text hblank hhash =>
      simpa only [List.cons_append, peekFrom?, hblank, hhash, Bool.false_eq_true, if_false] using h

theorem peek?_append {verbose : Bool} {text : Text} {c : Char} (tail : Text)
    (h : peek? verbose text = some c) : peek? verbose (text ++ tail) = some c := by
  cases verbose with
  | true => exact peekFrom?_append tail h
  | false =>
      cases text with
      | nil => cases h
      | cons d text => exact h

theorem skipFrom_eq_nil_of_peekFrom? {comment : Bool} {text : Text}
    (h : peekFrom? comment text = none) (inside : Bool) : skipFrom inside text = [] := by
  fun_induction peekFrom? comment text generalizing inside with
  | case1 => cases inside <;> rfl
  | case2 comment c text hblank ih =>
      cases inside with
      | true => exact ih h _
      | false => simpa only [skipFrom, hblank, if_true] using ih h false
  | case3 comment c text hblank hhash ih =>
      cases inside with
      | true => exact ih h _
      | false =>
          obtain ⟨-, rfl⟩ : comment = false ∧ c = '#' := by simpa using hhash
          exact ih h true
  | case4 => cases h

theorem skip_eq_nil_of_peek? {verbose : Bool} {text : Text} (h : peek? verbose text = none) :
    skip verbose text = [] := by
  cases verbose with
  | true => exact skipFrom_eq_nil_of_peekFrom? h false
  | false => exact List.head?_eq_none_iff.1 h

theorem bracedFrom?_append {verbose comment : Bool} {text inner rest : Text} (tail : Text)
    (h : bracedFrom? verbose comment text = some (inner, rest)) :
    bracedFrom? verbose comment (text ++ tail) = some (inner, rest ++ tail) := by
  fun_induction bracedFrom? verbose comment text generalizing inner with
  | case1 => cases h
  | case2 c text ih => exact ih h
  | case3 c text hblank ih =>
      simpa only [List.cons_append, bracedFrom?, hblank, if_true] using ih h
  | case4 c text hblank hhash ih =>
      simpa only [List.cons_append, bracedFrom?, hblank, hhash, Bool.false_eq_true, if_false,
        if_true] using ih h
  | case5 text hblank hhash =>
      cases h
      simp only [List.cons_append, bracedFrom?, hblank, hhash, Bool.false_eq_true, if_false,
        if_true]
  | case6 c text hblank hhash hclose ih =>
      obtain ⟨⟨i, r⟩, hr, h⟩ := Option.map_eq_some_iff.1 h
      cases h
      simp only [List.cons_append, bracedFrom?, hblank, hhash, hclose, Bool.false_eq_true,
        if_false, ih hr, Option.map_some]

theorem braced?_append {verbose : Bool} {text inner rest : Text} (tail : Text)
    (h : braced? verbose text = some (inner, rest)) :
    braced? verbose (text ++ tail) = some (inner, rest ++ tail) :=
  bracedFrom?_append tail h

theorem takeFixed?_append {verbose : Bool} {count : Nat} {text taken rest : Text} (tail : Text)
    (h : takeFixed? verbose count text = some (taken, rest)) :
    takeFixed? verbose count (text ++ tail) = some (taken, rest ++ tail) := by
  induction count generalizing text taken with
  | zero =>
      cases h
      rfl
  | succ count ih =>
      cases text with
      | nil => cases h
      | cons c text =>
          obtain ⟨⟨t, r⟩, hr, h⟩ := Option.map_eq_some_iff.1 h
          cases h
          simp only [List.cons_append, takeFixed?]
          by_cases hcount : count = 0
          · rw [if_pos hcount] at hr ⊢
            rw [ih hr, Option.map_some]
          · rw [if_neg hcount] at hr ⊢
            have hne : skip verbose text ≠ [] := by
              intro hnil
              obtain ⟨n, rfl⟩ := Nat.exists_eq_succ_of_ne_zero hcount
              rw [hnil] at hr
              cases hr
            rw [skip_append tail hne, ih hr, Option.map_some]

theorem readHex_append {verbose : Bool} {count : Nat} {text rest : Text} {a : Atom} (tail : Text)
    (hcount : count ≠ 0) (h : readHex verbose count text = .ok (a, rest)) :
    readHex verbose count (text ++ tail) = .ok (a, rest ++ tail) := by
  rw [readHex] at h
  split at h
  · next inner hinner =>
      have hne : skip verbose text ≠ [] := by rw [hinner]; exact List.cons_ne_nil _ _
      split at h
      · next hbraced =>
          split at h <;> cases h
          next hchar =>
            simp only [readHex, skip_append tail hne, hinner, List.cons_append,
              braced?_append tail hbraced, hchar]
      · cases h
  · next hplain =>
      split at h
      · next digits after htake =>
          have hne : skip verbose text ≠ [] := by
            intro hnil
            obtain ⟨n, rfl⟩ := Nat.exists_eq_succ_of_ne_zero hcount
            rw [hnil] at htake
            cases htake
          split at h <;> cases h
          next hchar =>
            rw [readHex]
            rw [skip_append tail hne]
            split
            · next inner hinner =>
                obtain ⟨d, text', htext⟩ := List.exists_cons_of_ne_nil hne
                rw [htext] at hinner
                cases hinner
                exact absurd htext (hplain _)
            · rw [takeFixed?_append tail htake]
              simp only [hchar]
      · cases h

theorem readProperty_append {verbose negated : Bool} {text rest : Text} {a : Atom} (tail : Text)
    (h : readProperty verbose negated text = .ok (a, rest)) :
    readProperty verbose negated (text ++ tail) = .ok (a, rest ++ tail) := by
  rw [readProperty] at h
  split at h
  · cases h
  · next c inner hinner =>
      have hne : skip verbose text ≠ [] := by rw [hinner]; exact List.cons_ne_nil _ _
      rw [readProperty]
      rw [skip_append tail hne, hinner]
      simp only [List.cons_append]
      split at h
      · next hbrace =>
          rw [if_pos hbrace]
          split at h
          · next hbraced =>
              cases h
              rw [braced?_append tail hbraced]
          · cases h
      · next hbrace =>
          rw [if_neg hbrace]
          split at h
          · cases h
          · next hslash =>
              cases h
              rw [if_neg hslash]

theorem readBoundary_append {verbose : Bool} {text rest tail : Text} {a : Atom}
    (htail : Inert tail) (h : readBoundary verbose text = .ok (a, rest)) :
    readBoundary verbose (text ++ tail) = .ok (a, rest ++ tail) := by
  simp only [readBoundary] at h
  split at h
  · next text =>
      split at h
      · cases h
      · next c inner hinner =>
          have hne : skip verbose text ≠ [] := by rw [hinner]; exact List.cons_ne_nil _ _
          simp only [readBoundary, List.cons_append, skip_append tail hne, hinner]
          split at h
          · next hletter =>
              rw [if_pos hletter]
              split at h
              · next hbraced =>
                  rw [braced?_append tail hbraced]
                  split at h <;> cases h
                  next hkind => simp only [hkind]
              · cases h
          · next hletter =>
              cases h
              rw [if_neg hletter]
              rfl
  · next hplain =>
      cases h
      obtain ⟨after, rfl⟩ := htail.closing
      cases text with
      | nil => rfl
      | cons c text =>
          simp only [readBoundary]
          split
          · next heq =>
              cases heq
              exact absurd rfl (hplain text)
          · rfl

theorem readEscape_append {verbose : Bool} {text rest tail : Text} {a : Atom}
    (htail : Inert tail) (h : readEscape verbose text = .ok (a, rest)) :
    readEscape verbose (text ++ tail) = .ok (a, rest ++ tail) := by
  cases text with
  | nil => cases h
  | cons c text =>
      simp only [List.cons_append, readEscape] at h ⊢
      split at h
      · next hc => rw [if_pos hc]; exact readHex_append tail (by decide) h
      next hx =>
      rw [if_neg hx]
      split at h
      · next hc => rw [if_pos hc]; exact readHex_append tail (by decide) h
      next hu =>
      rw [if_neg hu]
      split at h
      · next hc => rw [if_pos hc]; exact readHex_append tail (by decide) h
      next hU =>
      rw [if_neg hU]
      split at h
      · next hc => rw [if_pos hc]; exact readProperty_append tail h
      next hp =>
      rw [if_neg hp]
      split at h
      · next hc => rw [if_pos hc]; exact readProperty_append tail h
      next hP =>
      rw [if_neg hP]
      split at h
      · next hc => rw [if_pos hc]; exact readBoundary_append htail h
      next hb =>
      rw [if_neg hb]
      split at h
      · next hc =>
          cases h
          rw [if_pos hc]
      next hescapable =>
      rw [if_neg hescapable]
      split at h <;> cases h <;> rfl

end Highlight.Pattern
