import Highlight.Pattern.Class
import Highlight.Proofs.Pattern.Lookahead

/-!
How far the readers of a bracketed class look ahead. A class that is read off a text is read off
every longer text too. The name of an ASCII class is the one thing that is searched for without a
bound, which is why the colon behind a fragment matters.
-/

namespace Highlight.Pattern

theorem cutAt?_cons (d c : Char) (text : Text) :
    cutAt? [d] (c :: text) =
      if d = c then some ([], text)
      else (cutAt? [d] text).map fun (front, rest) => (c :: front, rest) := by
  by_cases h : d = c <;> simp [cutAt?, Text.after?, h]

theorem cutAt?_append {d : Char} {text front rest : Text} (tail : Text)
    (h : cutAt? [d] text = some (front, rest)) :
    cutAt? [d] (text ++ tail) = some (front, rest ++ tail) := by
  induction text generalizing front with
  | nil => cases h
  | cons c text ih =>
      rw [cutAt?_cons] at h
      rw [List.cons_append, cutAt?_cons]
      split at h
      · next hc =>
          cases h
          rw [if_pos hc]
      · next hc =>
          obtain ⟨⟨f, r⟩, hr, h⟩ := Option.map_eq_some_iff.1 h
          cases h
          rw [if_neg hc, ih hr, Option.map_some]

theorem cutAt?_append_of_eq_none {d : Char} {text : Text} (tail : Text)
    (h : cutAt? [d] text = none) :
    cutAt? [d] (text ++ tail) =
      (cutAt? [d] tail).map fun (front, rest) => (text ++ front, rest) := by
  induction text with
  | nil => simp
  | cons c text ih =>
      rw [cutAt?_cons] at h
      rw [List.cons_append, cutAt?_cons]
      split at h
      · cases h
      · next hc =>
          rw [if_neg hc, ih (Option.map_eq_none_iff.1 h), Option.map_map]
          rfl

theorem cutAt?_colon_append {text tail name rest : Text} (htail : Inert tail)
    (h : cutAt? [':'] (text ++ tail) = some (name, ']' :: rest)) :
    ∃ r, cutAt? [':'] text = some (name, ']' :: r) ∧ rest = r ++ tail := by
  cases hcut : cutAt? [':'] text with
  | none =>
      rw [cutAt?_append_of_eq_none tail hcut] at h
      obtain ⟨⟨f, r⟩, hr, h⟩ := Option.map_eq_some_iff.1 h
      cases h
      exact absurd rfl (htail.colon _ _ hr)
  | some cut =>
      obtain ⟨front, r⟩ := cut
      rw [cutAt?_append tail hcut] at h
      obtain ⟨after, rfl⟩ := htail.closing
      cases r with
      | nil => cases h
      | cons c r =>
          cases h
          exact ⟨r, rfl, rfl⟩

def dropCaret (text : Text) : Text := if text.head? = some '^' then text.tail else text

theorem dropCaret_append {text tail : Text} (h : text ≠ [] ∨ tail.head? ≠ some '^') :
    dropCaret (text ++ tail) = dropCaret text ++ tail := by
  cases text with
  | nil => exact if_neg (h.resolve_left fun hne => hne rfl)
  | cons c text =>
      by_cases hc : c = '^'
      · subst hc
        rfl
      · simp [dropCaret, hc]

theorem head?_append_caret {text tail : Text} (h : text ≠ [] ∨ tail.head? ≠ some '^') :
    (text ++ tail).head? = some '^' ↔ text.head? = some '^' := by
  cases text with
  | nil => simpa using h
  | cons c text => rfl

theorem Inert.head?_ne_caret {tail : Text} (htail : Inert tail) : tail.head? ≠ some '^' := by
  obtain ⟨rest, rfl⟩ := htail.closing
  simp

theorem asciiClass?_eq_some_iff {text rest : Text} {negated : Bool} {members : CharSet} :
    asciiClass? text = some (negated, members, rest) ↔
      ∃ inner name, text = ':' :: inner ∧ negated = decide (inner.head? = some '^') ∧
        cutAt? [':'] (dropCaret inner) = some (name, ']' :: rest) ∧
        Unicode.Table.find? asciiClassTable name = some members := by
  constructor
  · intro h
    unfold asciiClass? at h
    split at h
    · next inner =>
        dsimp only at h
        split at h
        · next name after hcut =>
            obtain ⟨found, hfound, h⟩ := Option.map_eq_some_iff.1 h
            cases h
            exact ⟨inner, name, rfl, rfl, hcut, hfound⟩
        · cases h
    · cases h
  · intro hall
    obtain ⟨inner, name, rfl, rfl, hcut, hfound⟩ := hall
    have hcut' : cutAt? ":".toList (if inner.head? = some '^' then inner.tail else inner) =
        some (name, ']' :: rest) := hcut
    simp only [asciiClass?, hcut', hfound, Option.map_some]

theorem asciiClass?_append {text rest tail : Text} {negated : Bool} {members : CharSet}
    (htail : Inert tail) (h : asciiClass? text = some (negated, members, rest)) :
    asciiClass? (text ++ tail) = some (negated, members, rest ++ tail) := by
  obtain ⟨inner, name, rfl, rfl, hcut, hfound⟩ := asciiClass?_eq_some_iff.1 h
  refine asciiClass?_eq_some_iff.2 ⟨inner ++ tail, name, rfl, ?_, ?_, hfound⟩
  · simp only [head?_append_caret (.inr htail.head?_ne_caret)]
  · rw [dropCaret_append (.inr htail.head?_ne_caret)]
    exact cutAt?_append tail hcut

theorem asciiClass?_append_of_eq_none {text tail : Text} (htail : Inert tail)
    (h : asciiClass? text = none) : asciiClass? (text ++ tail) = none := by
  rw [Option.eq_none_iff_forall_ne_some] at h ⊢
  rintro ⟨negated, members, rest⟩ hsome
  obtain ⟨inner, name, htext, rfl, hcut, hfound⟩ := asciiClass?_eq_some_iff.1 hsome
  cases text with
  | nil =>
      obtain ⟨after, rfl⟩ := htail.closing
      cases htext
  | cons c text =>
      simp only [List.cons_append, List.cons.injEq] at htext
      obtain ⟨rfl, rfl⟩ := htext
      rw [dropCaret_append (.inr htail.head?_ne_caret)] at hcut
      obtain ⟨r, hr, rfl⟩ := cutAt?_colon_append htail hcut
      exact h _ (asciiClass?_eq_some_iff.2 ⟨text, name, rfl, rfl, hr, hfound⟩)

theorem takeHyphens_of_hyphen {verbose : Bool} {text rest : Text}
    (h : skip verbose text = '-' :: rest) :
    takeHyphens verbose text =
      ((takeHyphens verbose rest).1 ++ [.atom (.literal '-' false)],
        (takeHyphens verbose rest).2) := by
  rw [takeHyphens]
  split
  · next after hafter =>
      rw [h] at hafter
      cases hafter
      rfl
  · next hplain => exact absurd h (hplain _)

theorem takeHyphens_of_ne_hyphen {verbose : Bool} {text : Text}
    (h : ∀ rest, skip verbose text ≠ '-' :: rest) :
    takeHyphens verbose text = ([], skip verbose text) := by
  rw [takeHyphens]
  split
  · next rest hrest => exact absurd hrest (h rest)
  · rfl

theorem takeHyphens_append {verbose : Bool} {text : Text} (tail : Text)
    (h : (takeHyphens verbose text).2 ≠ []) :
    takeHyphens verbose (text ++ tail) =
      ((takeHyphens verbose text).1, (takeHyphens verbose text).2 ++ tail) := by
  fun_induction takeHyphens verbose text with
  | case1 text rest hskip hyphens rest' heq ih =>
      have hne : skip verbose text ≠ [] := by rw [hskip]; exact List.cons_ne_nil _ _
      have hlong : skip verbose (text ++ tail) = '-' :: (rest ++ tail) := by
        rw [skip_append tail hne, hskip]
        rfl
      rw [heq] at ih
      rw [takeHyphens_of_hyphen hlong, ih h]
  | case2 text hplain =>
      have hne : skip verbose text ≠ [] := h
      rw [← skip_append tail hne]
      apply takeHyphens_of_ne_hyphen
      intro after hafter
      rw [skip_append tail hne] at hafter
      obtain ⟨c, text', htext⟩ := List.exists_cons_of_ne_nil hne
      rw [htext] at hafter
      cases hafter
      exact hplain _ htext

theorem openClass_eq_ok_iff {verbose negated : Bool} {text rest : Text} {items : List ClassSet} :
    openClass verbose text = .ok (negated, items, rest) ↔
      negated = decide ((skip verbose text).head? = some '^') ∧
        (takeHyphens verbose (dropCaret (skip verbose text)) = ([], ']' :: rest) ∧
            items = [.atom (.literal ']' false)] ∨
          takeHyphens verbose (dropCaret (skip verbose text)) = (items, rest) ∧ rest ≠ [] ∧
            (items = [] → rest.head? ≠ some ']')) := by
  rw [openClass]
  simp only [← dropCaret.eq_1]
  generalize takeHyphens verbose (dropCaret (skip verbose text)) = cut
  constructor
  · intro h
    split at h
    · cases h
    · cases h
      exact ⟨rfl, .inl ⟨rfl, rfl⟩⟩
    · next hyphens after hnil hbracket =>
        cases h
        refine ⟨rfl, .inr ⟨rfl, fun hrest => hnil (by rw [hrest]), ?_⟩⟩
        intro hitems hhead
        obtain ⟨r, rfl⟩ := List.head?_eq_some_iff.1 hhead
        exact hbracket r hitems rfl
  · intro hall
    obtain ⟨rfl, ⟨rfl, rfl⟩ | ⟨rfl, hne, hplain⟩⟩ := hall
    · rfl
    · obtain ⟨c, r, rfl⟩ := List.exists_cons_of_ne_nil hne
      split
      · next heq => cases heq
      · next heq =>
          cases heq
          exact absurd rfl (hplain rfl)
      · next heq =>
          cases heq
          rfl

theorem openClass_append {verbose negated : Bool} {text rest : Text} {items : List ClassSet}
    (tail : Text) (h : openClass verbose text = .ok (negated, items, rest)) :
    openClass verbose (text ++ tail) = .ok (negated, items, rest ++ tail) := by
  obtain ⟨hnegated, htake⟩ := openClass_eq_ok_iff.1 h
  have hrest : (takeHyphens verbose (dropCaret (skip verbose text))).2 ≠ [] := by
    rcases htake with ⟨heq, -⟩ | ⟨heq, hne, -⟩ <;> rw [heq]
    · exact List.cons_ne_nil _ _
    · exact hne
  have hne : skip verbose text ≠ [] := by
    intro hnil
    apply hrest
    rw [hnil, takeHyphens_of_ne_hyphen] <;> simp [dropCaret, skip_nil]
  refine openClass_eq_ok_iff.2 ⟨?_, ?_⟩
  · rw [skip_append tail hne, hnegated]
    simp only [head?_append_caret (.inl hne)]
  · rw [skip_append tail hne, dropCaret_append (.inl hne), takeHyphens_append tail hrest]
    rcases htake with ⟨heq, hitems⟩ | ⟨heq, hne, hplain⟩ <;> rw [heq]
    · exact .inl ⟨rfl, hitems⟩
    · right
      obtain ⟨c, r, rfl⟩ := List.exists_cons_of_ne_nil hne
      exact ⟨rfl, List.cons_ne_nil _ _, hplain⟩

theorem readClassAtom_append {verbose : Bool} {text rest tail : Text} {a : Atom}
    (htail : Inert tail) (h : readClassAtom verbose text = .ok (a, rest)) :
    readClassAtom verbose (text ++ tail) = .ok (a, rest ++ tail) := by
  cases text with
  | nil => cases h
  | cons c text =>
      simp only [List.cons_append, readClassAtom] at h ⊢
      split at h
      · next hslash =>
          rw [if_pos hslash]
          exact readEscape_append htail h
      · next hslash =>
          cases h
          rw [if_neg hslash]

theorem setOperator?_append {text rest : Text} {op : SetOperator} (tail : Text)
    (h : setOperator? text = some (op, rest)) :
    setOperator? (text ++ tail) = some (op, rest ++ tail) := by
  simp only [setOperator?] at h
  split at h <;> cases h <;> rfl

theorem setOperator?_cons_cons_append {c d : Char} {text : Text} (tail : Text)
    (h : setOperator? (c :: d :: text) = none) :
    setOperator? (c :: d :: text ++ tail) = none := by
  unfold setOperator? at h ⊢
  split <;> simp_all

theorem setOperator?_append_of_eq_none {text tail : Text} (htail : Inert tail) (hne : text ≠ [])
    (h : setOperator? text = none) : setOperator? (text ++ tail) = none := by
  obtain ⟨after, rfl⟩ := htail.closing
  match text with
  | [c] =>
      simp only [setOperator?]
      split <;> simp_all
  | c :: d :: text => exact setOperator?_cons_cons_append _ h

theorem readClassItem_append {verbose : Bool} {text rest tail : Text} {item : ClassSet}
    (htail : Inert tail) (h : readClassItem verbose text = .ok (item, rest)) :
    readClassItem verbose (text ++ tail) = .ok (item, rest ++ tail) := by
  simp only [readClassItem, bind, Except.bind] at h ⊢
  split at h
  · cases h
  · next first hfirst =>
      rw [readClassAtom_append htail hfirst]
      dsimp only
      split at h
      · cases h
      · next c after hskip =>
          have hne : skip verbose first.2 ≠ [] := by rw [hskip]; exact List.cons_ne_nil _ _
          rw [skip_append tail hne, hskip]
          simp only [List.cons_append]
          by_cases hc : c = '-'
          · subst hc
            cases hpeek : peek? verbose after with
            | none =>
                simp [hpeek, skip_eq_nil_of_peek? hpeek, readClassAtom] at h
            | some d =>
                rw [hpeek] at h
                rw [peek?_append tail hpeek]
                split at h
                · next hend =>
                    rw [if_pos hend]
                    split at h
                    · cases h
                    · cases h
                      rfl
                · next hend =>
                    rw [if_neg hend]
                    split at h
                    · cases h
                    · next last hlast =>
                        have hafter : skip verbose after ≠ [] := by
                          intro hnil
                          rw [hnil] at hlast
                          cases hlast
                        rw [skip_append tail hafter, readClassAtom_append htail hlast]
                        dsimp only
                        split at h
                        · cases h
                        · cases h
                          rfl
          · simp only [hc, ne_eq, not_false_eq_true, decide_true, Bool.true_or, if_true] at h ⊢
            split at h
            · cases h
            · cases h
              rfl

theorem stepClass_append {verbose : Bool} {state : ClassState} {text rest tail : Text}
    {step : ClassStep} (htail : Inert tail)
    (h : stepClass verbose state text = .ok (step, rest)) :
    stepClass verbose state (text ++ tail) = .ok (step, rest ++ tail) := by
  simp only [stepClass, bind, Except.bind] at h
  split at h
  · cases h
  · next after =>
      simp only [stepClass, bind, Except.bind, List.cons_append]
      split at h
      · next hascii =>
          cases h
          rw [asciiClass?_append htail hascii]
          rfl
      · next hascii =>
          rw [asciiClass?_append_of_eq_none htail hascii]
          dsimp only
          split at h
          · cases h
          · next opened hopen =>
              cases h
              rw [openClass_append tail hopen]
              rfl
  · next after =>
      simp only [stepClass, List.cons_append]
      split at h
      · cases h
        rfl
      · cases h
        rfl
      · cases h
  · next hnil hopen hclose =>
      have hne : text ≠ [] := fun heq => hnil heq
      simp only [stepClass, bind, Except.bind]
      split
      · next heq => exact absurd (List.append_eq_nil_iff.1 heq).1 hne
      · next heq =>
          obtain ⟨c, r, rfl⟩ := List.exists_cons_of_ne_nil hne
          cases heq
          exact absurd rfl (hopen r)
      · next heq =>
          obtain ⟨c, r, rfl⟩ := List.exists_cons_of_ne_nil hne
          cases heq
          exact absurd rfl (hclose r)
      split at h
      · next hop =>
          cases h
          rw [setOperator?_append tail hop]
          rfl
      · next hop =>
          rw [setOperator?_append_of_eq_none htail hne hop]
          dsimp only
          split at h
          · cases h
          · next hitem =>
              cases h
              rw [readClassItem_append htail hitem]
              rfl

theorem runClass_of_done {verbose negated : Bool} {state : ClassState} {text rest : Text}
    {set : ClassSet} (h : stepClass verbose state (skip verbose text) = .ok (.done negated set, rest)) :
    runClass verbose state text = .ok (negated, set, rest) := by
  rw [runClass]
  split
  · next heq => cases h.symm.trans heq
  · next heq =>
      cases h.symm.trans heq
      rfl
  · next heq => cases h.symm.trans heq

theorem runClass_of_more {verbose : Bool} {state next : ClassState} {text rest : Text}
    (h : stepClass verbose state (skip verbose text) = .ok (.more next, rest)) :
    runClass verbose state text = runClass verbose next rest := by
  rw [runClass]
  split
  · next heq => cases h.symm.trans heq
  · next heq => cases h.symm.trans heq
  · next heq =>
      cases h.symm.trans heq
      rfl

theorem skip_ne_nil_of_stepClass {verbose : Bool} {state : ClassState} {text rest : Text}
    {step : ClassStep} (h : stepClass verbose state (skip verbose text) = .ok (step, rest)) :
    skip verbose text ≠ [] := by
  intro hnil
  rw [hnil] at h
  cases h

theorem runClass_append {verbose : Bool} {state : ClassState} {text rest tail : Text}
    {negated : Bool} {set : ClassSet} (htail : Inert tail)
    (h : runClass verbose state text = .ok (negated, set, rest)) :
    runClass verbose state (text ++ tail) = .ok (negated, set, rest ++ tail) := by
  fun_induction runClass verbose state text with
  | case1 => cases h
  | case2 state text negated' set' rest' hstep =>
      cases h
      apply runClass_of_done
      rw [skip_append tail (skip_ne_nil_of_stepClass hstep)]
      exact stepClass_append htail hstep
  | case3 state text state' rest' hstep ih =>
      rw [← ih h]
      apply runClass_of_more
      rw [skip_append tail (skip_ne_nil_of_stepClass hstep)]
      exact stepClass_append htail hstep

theorem readClass_append {verbose negated : Bool} {text rest tail : Text} {set : ClassSet}
    (htail : Inert tail) (h : readClass verbose text = .ok (negated, set, rest)) :
    readClass verbose (text ++ tail) = .ok (negated, set, rest ++ tail) := by
  simp only [readClass, bind, Except.bind] at h ⊢
  split at h
  · cases h
  · next hopen =>
      rw [openClass_append tail hopen]
      exact runClass_append htail h

end Highlight.Pattern
