import Highlight.Pattern.Header
import Highlight.Proofs.Pattern.Lookahead

/-!
How far the reader of a group's header looks ahead: past a question mark and the two characters
behind it, and not at all where no question mark follows the parenthesis.
-/

namespace Highlight.Pattern

theorem readFlags_append {on dangling : Bool} {seen set : Flags} {text rest : Text} {c : Char}
    (tail : Text) (h : readFlags on dangling seen text = .ok (set, c, rest)) :
    readFlags on dangling seen (text ++ tail) = .ok (set, c, rest ++ tail) := by
  induction text generalizing on dangling seen with
  | nil => cases h
  | cons d text ih =>
      simp only [List.cons_append, readFlags] at h ⊢
      split at h
      · next hend =>
          rw [if_pos hend]
          split at h <;> cases h
          next hdangling => rw [if_neg hdangling]
      next hend =>
      rw [if_neg hend]
      split at h
      · next hhyphen =>
          rw [if_pos hhyphen]
          split at h
          · next hon =>
              rw [if_pos hon]
              exact ih h
          · cases h
      next hhyphen =>
      rw [if_neg hhyphen]
      split at h
      · cases h
      · next flag hflag =>
          split at h
          · cases h
          · next hseen =>
              simp only [hseen, Bool.false_eq_true, if_false]
              exact ih h

theorem takeName?_append {atStart : Bool} {text name rest : Text} (tail : Text)
    (h : takeName? atStart text = some (name, rest)) :
    takeName? atStart (text ++ tail) = some (name, rest ++ tail) := by
  induction text generalizing atStart name with
  | nil => cases h
  | cons c text ih =>
      simp only [List.cons_append, takeName?] at h ⊢
      split at h
      · next hend =>
          rw [if_pos hend]
          split at h <;> cases h
          next hstart => rw [if_neg hstart]
      next hend =>
      rw [if_neg hend]
      split at h
      · next hname =>
          rw [if_pos hname]
          obtain ⟨⟨n, r⟩, hr, h⟩ := Option.map_eq_some_iff.1 h
          cases h
          rw [ih hr, Option.map_some]
      · cases h

theorem after?_append {opening text rest : Text} (tail : Text)
    (h : Text.after? opening text = some rest) :
    Text.after? opening (text ++ tail) = some (rest ++ tail) := by
  rw [Text.after?_eq_some_iff] at h ⊢
  rw [h, List.append_assoc]

theorem isLookAround_of_ne {c : Char} (hc : c ≠ '?') (text : Text) :
    isLookAround (c :: text) = false := by
  simp [isLookAround, Text.after?, Ne.symm hc]

theorem isLookAround_question (d : Char) (text : Text) :
    isLookAround ('?' :: d :: text) =
      (d = '=' || d = '!' || (d = '<' && (text.head? = some '=' || text.head? = some '!'))) := by
  by_cases heq : d = '='
  · subst heq
    rfl
  by_cases hnot : d = '!'
  · subst hnot
    rfl
  by_cases hangle : d = '<'
  · subst hangle
    cases text with
    | nil => rfl
    | cons e text =>
        by_cases heq : '=' = e
        · subst heq
          rfl
        by_cases hnot : '!' = e
        · subst hnot
          rfl
        simp [isLookAround, Text.after?, heq, hnot, Ne.symm heq, Ne.symm hnot]
  · simp [isLookAround, Text.after?, heq, hnot, hangle, Ne.symm heq, Ne.symm hnot, Ne.symm hangle]

theorem isLookAround_append {d : Char} {text : Text} (tail : Text) (hd : d = '<' → text ≠ [])
    (h : isLookAround ('?' :: d :: text) = false) :
    isLookAround ('?' :: d :: (text ++ tail)) = false := by
  rw [isLookAround_question] at h ⊢
  cases text with
  | nil =>
      have hangle : d ≠ '<' := fun heq => hd heq rfl
      simpa [hangle] using h
  | cons e text => exact h

theorem readHeader_unnamed {verbose : Bool} {text : Text}
    (h : (skip verbose text).head? ≠ some '?') :
    readHeader verbose text = .ok (.unnamed, skip verbose text) := by
  rw [readHeader]
  generalize skip verbose text = text at h ⊢
  cases text with
  | nil => rfl
  | cons c text =>
      have hc : c ≠ '?' := by simpa using h
      simp [isLookAround_of_ne hc, Text.after?, Ne.symm hc, hc]

def afterName? (text : Text) : Option Text :=
  (Text.after? "?P<".toList text).or (Text.after? "?<".toList text)

theorem afterName?_of_ne {d : Char} (hangle : d ≠ '<') (hp : d ≠ 'P') (text : Text) :
    afterName? ('?' :: d :: text) = none := by
  simp [afterName?, Text.after?, Ne.symm hangle, Ne.symm hp]

theorem afterName?_append {text rest : Text} (tail : Text)
    (h : afterName? ('?' :: text) = some rest) :
    afterName? ('?' :: (text ++ tail)) = some (rest ++ tail) := by
  rcases Option.or_eq_some_iff.1 h with hp | ⟨-, hangle⟩
  · exact Option.or_eq_some_iff.2 (.inl (after?_append tail hp))
  · obtain rfl : text = '<' :: rest := List.cons.inj (Text.after?_eq_some_iff.1 hangle) |>.2
    rfl

theorem readHeader_append {verbose : Bool} {text rest tail : Text} {header : Header}
    (hne : skip verbose text ≠ []) (h : readHeader verbose text = .ok (header, rest)) :
    readHeader verbose (text ++ tail) = .ok (header, rest ++ tail) := by
  have hlong := skip_append tail hne
  by_cases hhead : (skip verbose text).head? = some '?'
  · obtain ⟨inner, hinner⟩ := List.head?_eq_some_iff.1 hhead
    simp only [readHeader, hlong, hinner, List.cons_append, ← afterName?.eq_1] at h ⊢
    split at h
    · cases h
    next hlook =>
    cases inner with
    | nil => cases h
    | cons d inner =>
    cases hname : afterName? ('?' :: d :: inner) with
    | some name =>
        rw [hname] at h
        dsimp only at h
        split at h
        · next htake =>
            cases h
            have hd : d = '<' → inner ≠ [] := by
              rintro rfl rfl
              cases hname
              cases htake
            have hlongName := afterName?_append tail hname
            simp only [List.cons_append] at hlongName ⊢
            rw [isLookAround_append tail hd (by simpa using hlook)]
            simp only [Bool.false_eq_true, if_false, hlongName, takeName?_append tail htake]
        · cases h
    | none =>
        rw [hname] at h
        dsimp only at h
        split at h
        · cases h
        · next set c after hflags =>
            have hangle : d ≠ '<' := by
              intro heq
              subst heq
              cases hname
            have hp : d ≠ 'P' := by
              intro heq
              subst heq
              cases hflags
            have hflags := readFlags_append tail hflags
            simp only [List.cons_append] at hflags ⊢
            rw [isLookAround_append tail (fun heq => absurd heq hangle) (by simpa using hlook)]
            simp only [Bool.false_eq_true, if_false, afterName?_of_ne hangle hp, hflags]
            split at h
            · next hcolon =>
                cases h
                rw [if_pos hcolon]
            · next hcolon =>
                rw [if_neg hcolon]
                split at h
                · cases h
                · next hset =>
                    cases h
                    rw [if_neg hset]
  · rw [readHeader_unnamed hhead] at h
    cases h
    rw [readHeader_unnamed, hlong]
    obtain ⟨c, text', htext⟩ := List.exists_cons_of_ne_nil hne
    rw [htext] at hhead hlong
    rwa [hlong]

end Highlight.Pattern
