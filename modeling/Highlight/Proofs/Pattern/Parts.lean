import Highlight.Proofs.Outcome
import Highlight.Proofs.Pattern.CaptureIndex
import Highlight.Proofs.Pattern.Reads

/-!
Measures of what is put together from parts. Depth, captures and the use of Unicode mode are told of
a tree by its parts; of the literals of a text there is nothing to tell.
-/

namespace Highlight.Pattern

/-- A fragment in a plain group of its own. -/
def wrap (fragment : Text) : Text := "(?:".toList ++ fragment ++ [')']

/-- The number of capture groups in a fragment, however large its automaton may be. -/
def groups? (fragment : Text) : Option Nat := (read (wrap fragment)).toOption.map Node.captures

theorem read_eq_ok_iff {text : Text} {node : Node} :
    read text = .ok node ↔
      run .initial text = .ok node ∧ node.depth ≤ depthLimit ∧
        (node.unicodeAfter? true).isSome := by
  simp only [read, bind, Except.bind]
  constructor
  · intro h
    split at h
    · cases h
    · next hrun =>
        split at h
        · cases h
        · split at h <;> cases h
          next hallowed => exact ⟨hrun, by omega, by simpa [Option.isSome_iff_ne_none] using hallowed⟩
  · intro hall
    obtain ⟨hrun, hdepth, hallowed⟩ := hall
    rw [hrun]
    dsimp only
    rw [if_neg (by omega), if_neg (by simpa [Option.isSome_iff_ne_none] using hallowed)]
    rfl

theorem groups?_eq_some_iff {fragment : Text} {n : Nat} :
    groups? fragment = some n ↔ ∃ node, read (wrap fragment) = .ok node ∧ node.captures = n := by
  rw [groups?]
  cases read (wrap fragment) with
  | error fault => simp [Except.toOption]
  | ok node => simp [Except.toOption]

theorem countGroups_eq_ok_iff {fragment : Text} {n : Nat} :
    countGroups fragment = .ok n ↔
      ∃ node, read (wrap fragment) = .ok node ∧ (node.matcher {}).1.isTooLarge = false ∧
        node.captures = n := by
  simp only [countGroups, bind, Except.bind, ← wrap.eq_1]
  cases read (wrap fragment) with
  | error fault => simp
  | ok node =>
      dsimp only
      by_cases hlarge : (node.matcher {}).1.isTooLarge
      · simp [hlarge]
      · rw [if_neg hlarge]
        simp [hlarge, pure, Except.pure]

theorem countGroups_of_read {fragment : Text} {node : Node} (h : read (wrap fragment) = .ok node) :
    countGroups fragment = .ok node.captures ∨ countGroups fragment = .error .tooLarge := by
  simp only [countGroups, bind, Except.bind, ← wrap.eq_1, h]
  split
  · exact .inr rfl
  · exact .inl rfl

namespace Node

variable (front back parts : List Node) (text : Text)

theorem depths_append : depths (front ++ back) = max (depths front) (depths back) := by
  induction front with
  | nil => simp [depths]
  | cons node front ih => rw [List.cons_append, depths, depths, ih, Nat.max_assoc]

theorem allCaptures_append :
    allCaptures (front ++ back) = max (allCaptures front) (allCaptures back) := by
  induction front with
  | nil => simp [allCaptures]
  | cons node front ih => rw [List.cons_append, allCaptures, allCaptures, ih, Nat.max_assoc]

theorem allUnicodeAfter?_append (unicode : Bool) :
    allUnicodeAfter? unicode (front ++ back) =
      (allUnicodeAfter? unicode front).bind fun after => allUnicodeAfter? after back := by
  induction front generalizing unicode with
  | nil => rfl
  | cons node front ih =>
      simp only [List.cons_append, allUnicodeAfter?]
      cases node.unicodeAfter? unicode with
      | none => rfl
      | some after => exact ih after

theorem depth_ofParts_le : (ofParts parts).depth ≤ depths parts + 1 := by
  match parts with
  | [] => exact Nat.zero_le _
  | [part] =>
      simp only [ofParts, depths]
      omega
  | _ :: _ :: _ => exact Nat.le_refl _

theorem captures_ofParts : (ofParts parts).captures = allCaptures parts := by
  match parts with
  | [] => rfl
  | [part] => simp [ofParts, allCaptures]
  | _ :: _ :: _ => rfl

theorem unicodeAfter?_ofParts (unicode : Bool) :
    (ofParts parts).unicodeAfter? unicode = allUnicodeAfter? unicode parts := by
  match parts with
  | [] => rfl
  | [part] =>
      simp only [ofParts, allUnicodeAfter?]
      cases part.unicodeAfter? unicode <;> rfl
  | _ :: _ :: _ => rfl

theorem depths_literals : depths (text.map literal) = 0 := by
  induction text with
  | nil => rfl
  | cons c text ih =>
      rw [List.map_cons, depths, ih]
      rfl

theorem allCaptures_literals : allCaptures (text.map literal) = 0 := by
  induction text with
  | nil => rfl
  | cons c text ih =>
      rw [List.map_cons, allCaptures, ih]
      rfl

theorem allUnicodeAfter?_literals (unicode : Bool) :
    allUnicodeAfter? unicode (text.map literal) = some unicode := by
  induction text with
  | nil => rfl
  | cons c text ih =>
      have hliteral : (literal c).unicodeAfter? unicode = some unicode := by
        cases unicode <;> rfl
      rw [List.map_cons, allUnicodeAfter?, hliteral]
      exact ih

end Node

namespace Row

theorem shift_pushAll (k : Nat) (row : Row) (nodes : List Node) :
    (row.pushAll nodes).shift k = (row.shift k).pushAll (nodes.map (Node.shift k)) := by
  simp only [pushAll_eq, shift, List.map_append, List.map_reverse]

theorem close_pushAll (nodes : List Node) : (empty.pushAll nodes).close = Node.ofParts nodes := by
  rw [pushAll_eq]
  simp [close, alternate, empty, Node.ofBranches]

end Row

end Highlight.Pattern
