import Highlight.Proofs.Pattern.ClassLookahead
import Highlight.Proofs.Pattern.Escaped

/-!
Classes in any surroundings. `ReadsItems` says which items a text adds to the class that it stands
in, whatever has been read of the class and whatever follows; it is composed along the text.
-/

namespace Highlight.Pattern

def ClassSet.literal (c : Char) : ClassSet := .atom (.literal c false)

/-- A text that adds `items`, in order, to a class outside of verbose mode. -/
def ReadsItems (text : Text) (items : List ClassSet) : Prop :=
  ∀ (state : ClassState) (rest : Text), rest ≠ [] → rest.head? ≠ some '-' →
    runClass false state (text ++ rest) =
      runClass false { state with items := items.reverse ++ state.items } rest

def IsPlainItem (c : Char) : Prop := c ∉ ['[', ']', '\\', '&', '-', '~']

instance (c : Char) : Decidable (IsPlainItem c) := inferInstanceAs (Decidable (c ∉ _))

theorem isPlainItem_of_not_isMeta {c : Char} (hc : ¬isMeta c) : IsPlainItem c := by
  have hmeta : ∀ d ∈ ['[', ']', '\\', '&', '-', '~'], isMeta d :=
    forall_mem_of_all (by decide)
  exact fun hmem => hc (hmeta c hmem)

variable {text text' rest : Text} {items items' : List ClassSet} {state : ClassState} {c : Char}

theorem stepClass_of_setOperator? (hc : c ∉ ['[', ']']) (hop : setOperator? (c :: text) = none) :
    stepClass false state (c :: text) =
      (readClassItem false (c :: text)).map fun (item, rest) =>
        (.more { state with items := item :: state.items }, rest) := by
  simp only [List.mem_cons, List.not_mem_nil, or_false, not_or] at hc
  simp only [stepClass]
  split
  · next heq => cases heq
  · next heq => exact absurd (List.cons.inj heq).1 hc.1
  · next heq => exact absurd (List.cons.inj heq).1 hc.2
  · rw [hop]
    cases readClassItem false (c :: text) <;> rfl

theorem readClassItem_of_atom {a : Atom} (ha : readClassAtom false text = .ok (a, rest))
    (hne : rest ≠ []) (hhyphen : rest.head? ≠ some '-') :
    readClassItem false text = (ClassSet.ofAtom a).map fun item => (item, rest) := by
  obtain ⟨d, rest, rfl⟩ := List.exists_cons_of_ne_nil hne
  have hd : d ≠ '-' := by simpa using hhyphen
  have hskip : skip false (d :: rest) = d :: rest := rfl
  simp only [readClassItem, ha, bind, Except.bind, hskip]
  rw [if_pos (by simp [hd])]
  cases ClassSet.ofAtom a <;> rfl

theorem runClass_of_setOperator? {item : ClassSet} (hc : c ∉ ['[', ']'])
    (hop : setOperator? (c :: text) = none)
    (h : readClassItem false (c :: text) = .ok (item, rest)) :
    runClass false state (c :: text) =
      runClass false { state with items := item :: state.items } rest := by
  apply runClass_of_more
  rw [show skip false (c :: text) = c :: text from rfl, stepClass_of_setOperator? hc hop, h]
  rfl

theorem runClass_item {item : ClassSet} (hc : c ∉ ['[', ']', '&', '-', '~'])
    (h : readClassItem false (c :: text) = .ok (item, rest)) :
    runClass false state (c :: text) =
      runClass false { state with items := item :: state.items } rest := by
  simp only [List.mem_cons, List.not_mem_nil, or_false, not_or] at hc
  refine runClass_of_setOperator? (by simp [hc]) ?_ h
  simp only [setOperator?]
  split <;> simp_all

namespace ReadsItems

theorem nil : ReadsItems [] [] := fun _ _ _ _ => rfl

theorem append (h : ReadsItems text items) (h' : ReadsItems text' items')
    (hhead : text'.head? ≠ some '-') : ReadsItems (text ++ text') (items ++ items') := by
  intro state rest hne hhyphen
  have hrest : text' ++ rest ≠ [] := by simp [hne]
  have hhyphen' : (text' ++ rest).head? ≠ some '-' := by
    cases text' with
    | nil => exact hhyphen
    | cons d text' => exact hhead
  rw [List.append_assoc, h _ _ hrest hhyphen', h' _ _ hne hhyphen, List.reverse_append,
    List.append_assoc]

theorem plain (hc : IsPlainItem c) : ReadsItems [c] [.literal c] := by
  intro state rest hne hhyphen
  simp only [IsPlainItem, List.mem_cons, List.not_mem_nil, or_false, not_or] at hc
  have hatom : readClassAtom false (c :: rest) = .ok (.literal c false, rest) := if_neg hc.2.2.1
  have hitem : readClassItem false (c :: rest) = .ok (.literal c, rest) := by
    rw [readClassItem_of_atom hatom hne hhyphen]
    rfl
  exact runClass_item (by simp [hc]) hitem

theorem escaped {d : Char} (h : ∀ rest, readEscape false (c :: rest) = .ok (.literal d false, rest)) :
    ReadsItems ['\\', c] [.literal d] := by
  intro state rest hne hhyphen
  have hatom : readClassAtom false ('\\' :: c :: rest) = .ok (.literal d false, rest) := h rest
  have hitem : readClassItem false ('\\' :: c :: rest) = .ok (.literal d, rest) := by
    rw [readClassItem_of_atom hatom hne hhyphen]
    rfl
  exact runClass_item (by decide) hitem

theorem range {first last : Char} (hfirst : IsPlainItem first) (hlast : IsPlainItem last)
    (hle : first ≤ last) :
    ReadsItems [first, '-', last] [.range (.literal first false) (.literal last false)] := by
  intro state rest _ _
  simp only [IsPlainItem, List.mem_cons, List.not_mem_nil, or_false, not_or] at hfirst hlast
  have hitem : readClassItem false (first :: '-' :: last :: rest) =
      .ok (.range (.literal first false) (.literal last false), rest) := by
    simp [readClassItem, readClassAtom, skip, peek?, bind, Except.bind, ClassSet.ofRange, hfirst,
      hlast, hle]
    rfl
  exact runClass_item (by simp [hfirst]) hitem

theorem rangeHyphen {first last : Char} (hfirst : IsPlainItem first) (hlast : IsPlainItem last)
    (hle : first ≤ last) :
    ReadsItems [first, '-', last, '-']
      [.range (.literal first false) (.literal last false), .literal '-'] := by
  intro state rest hne hhyphen
  simp only [IsPlainItem, List.mem_cons, List.not_mem_nil, or_false, not_or] at hfirst hlast
  have hrange : readClassItem false (first :: '-' :: last :: '-' :: rest) =
      .ok (.range (.literal first false) (.literal last false), '-' :: rest) := by
    simp [readClassItem, readClassAtom, skip, peek?, bind, Except.bind, ClassSet.ofRange, hfirst,
      hlast, hle]
    rfl
  have hop : setOperator? ('-' :: rest) = none := by
    simp only [setOperator?]
    split <;> simp_all
  have hitem : readClassItem false ('-' :: rest) = .ok (.literal '-', rest) := by
    rw [readClassItem_of_atom (a := .literal '-' false) rfl hne hhyphen]
    rfl
  exact (runClass_item (by simp [hfirst]) hrange).trans
    (runClass_of_setOperator? (by decide) hop hitem)

theorem escape (text : Text) : ReadsItems (Pattern.escape text) (text.map .literal) := by
  induction text with
  | nil => exact nil
  | cons c text ih =>
      have hhead : (Pattern.escape text).head? ≠ some '-' := head?_escape_ne rfl (by decide) text
      by_cases hc : isMeta c
      · rw [escape_cons_of_isMeta hc]
        exact append (escaped (readEscape_of_isMeta hc false)) ih hhead
      · rw [escape_cons_of_not_isMeta hc]
        exact append (plain (isPlainItem_of_not_isMeta hc)) ih hhead

end ReadsItems

theorem openClass_of_plain {negated : Bool} (hne : text ≠ [])
    (hhead : ∀ c ∈ text.head?, c ∉ ['^', '-', ']']) :
    openClass false ((if negated then ['^'] else []) ++ text) = .ok (negated, [], text) := by
  obtain ⟨c, text, rfl⟩ := List.exists_cons_of_ne_nil hne
  have hc : c ∉ ['^', '-', ']'] := hhead c rfl
  simp only [List.mem_cons, List.not_mem_nil, or_false, not_or] at hc
  have htake : takeHyphens false (c :: text) = ([], c :: text) := by
    apply takeHyphens_of_ne_hyphen
    intro rest h
    exact hc.2.1 (List.cons.inj h).1
  apply openClass_eq_ok_iff.2
  cases negated with
  | true => exact ⟨rfl, .inr ⟨htake, hne, fun _ => by simpa using hc.2.2⟩⟩
  | false =>
      have hcaret : dropCaret (c :: text) = c :: text := by simp [dropCaret, hc.1]
      refine ⟨by simp [skip, hc.1], .inr ⟨?_, hne, fun _ => by simpa using hc.2.2⟩⟩
      exact hcaret.symm ▸ htake

theorem readClass_of_items {negated : Bool} (h : ReadsItems text items) (hne : text ≠ [])
    (hhead : ∀ c ∈ text.head?, c ∉ ['^', '-', ']']) :
    readClass false ((if negated then ['^'] else []) ++ (text ++ ']' :: rest)) =
      .ok (negated, .ofItems items, rest) := by
  have hopen : openClass false ((if negated then ['^'] else []) ++ (text ++ ']' :: rest)) =
      .ok (negated, [], text ++ ']' :: rest) :=
    openClass_of_plain (by simp) (by cases text <;> simp_all)
  rw [readClass, hopen]
  simp only [bind, Except.bind]
  rw [h _ _ (List.cons_ne_nil _ _) (by simp)]
  apply runClass_of_done
  simp [stepClass, skip, ClassState.settle]
  rfl

end Highlight.Pattern
