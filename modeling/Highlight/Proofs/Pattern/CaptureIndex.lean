import Highlight.Pattern.Reader

/-!
Capture groups and their numbers. Moving a tree behind further groups changes no other number, and
while a pattern is read the highest number given out is the highest one in what has been read, with
the parts that are repeated zero times. `Node.captures` leaves those out and may therefore be less.
-/

namespace Highlight.Pattern

def GroupKind.shift (k : Nat) : GroupKind → GroupKind
  | capture index name => capture (index + k) name
  | plain flags => plain flags

mutual

def Node.shift (k : Nat) : Node → Node
  | empty => empty
  | flags set => flags set
  | atom a => atom a
  | bracketed negated set => bracketed negated set
  | repetition body greedy least most => repetition (body.shift k) greedy least most
  | group kind body => group (kind.shift k) (body.shift k)
  | alternation branches => alternation (Node.shifts k branches)
  | concat parts => concat (Node.shifts k parts)

def Node.shifts (k : Nat) : List Node → List Node
  | [] => []
  | node :: nodes => node.shift k :: shifts k nodes

end

mutual

/-- The highest capture group, also of what is repeated zero times. -/
def Node.lastIndex : Node → Nat
  | empty | flags _ | atom _ | bracketed _ _ => 0
  | repetition body _ _ _ => body.lastIndex
  | group kind body => max kind.index body.lastIndex
  | alternation branches => Node.lastIndices branches
  | concat parts => Node.lastIndices parts

def Node.lastIndices : List Node → Nat
  | [] => 0
  | node :: nodes => max node.lastIndex (lastIndices nodes)

end

namespace GroupKind

@[simp]
theorem flags_shift (kind : GroupKind) (k : Nat) : (kind.shift k).flags = kind.flags := by
  cases kind <;> rfl

theorem index_shift_le (kind : GroupKind) (k : Nat) : (kind.shift k).index ≤ kind.index + k := by
  cases kind with
  | capture index name => exact Nat.le_refl _
  | plain flags => exact Nat.zero_le _

end GroupKind

namespace Node

theorem shifts_eq_map (k : Nat) (nodes : List Node) : shifts k nodes = nodes.map (shift k) := by
  induction nodes with
  | nil => rfl
  | cons node nodes ih => rw [shifts, ih, List.map_cons]

mutual

theorem depth_shift (k : Nat) : (node : Node) → (node.shift k).depth = node.depth
  | .empty | .flags _ | .atom _ | .bracketed _ _ => rfl
  | .repetition body _ _ _ => congrArg (· + 1) (depth_shift k body)
  | .group _ body => congrArg (· + 1) (depth_shift k body)
  | .alternation branches => congrArg (· + 1) (depths_shifts k branches)
  | .concat parts => congrArg (· + 1) (depths_shifts k parts)

theorem depths_shifts (k : Nat) : (nodes : List Node) → depths (shifts k nodes) = depths nodes
  | [] => rfl
  | node :: nodes => by rw [shifts, depths, depths, depth_shift k node, depths_shifts k nodes]

end

mutual

theorem unicodeAfter?_shift (k : Nat) (unicode : Bool) :
    (node : Node) → (node.shift k).unicodeAfter? unicode = node.unicodeAfter? unicode
  | .empty | .flags _ | .atom _ | .bracketed _ _ => rfl
  | .repetition body _ _ _ => unicodeAfter?_shift k unicode body
  | .group kind body => by
      simp only [shift, unicodeAfter?, GroupKind.flags_shift]
      rw [unicodeAfter?_shift k _ body]
  | .alternation branches => allUnicodeAfter?_shifts k unicode branches
  | .concat parts => allUnicodeAfter?_shifts k unicode parts

theorem allUnicodeAfter?_shifts (k : Nat) (unicode : Bool) :
    (nodes : List Node) →
      allUnicodeAfter? unicode (shifts k nodes) = allUnicodeAfter? unicode nodes
  | [] => rfl
  | node :: nodes => by
      simp only [shifts, allUnicodeAfter?]
      rw [unicodeAfter?_shift k unicode node]
      cases node.unicodeAfter? unicode with
      | none => rfl
      | some after => exact allUnicodeAfter?_shifts k after nodes

end

mutual

theorem shift_zero : (node : Node) → node.shift 0 = node
  | .empty | .flags _ | .atom _ | .bracketed _ _ => rfl
  | .repetition body greedy least most => by rw [shift, shift_zero body]
  | .group kind body => by
      have hkind : kind.shift 0 = kind := by cases kind <;> rfl
      rw [shift, shift_zero body, hkind]
  | .alternation branches => by rw [shift, shifts_zero branches]
  | .concat parts => by rw [shift, shifts_zero parts]

theorem shifts_zero : (nodes : List Node) → shifts 0 nodes = nodes
  | [] => rfl
  | node :: nodes => by rw [shifts, shift_zero node, shifts_zero nodes]

end

mutual

theorem lastIndex_shift_le (k : Nat) : (node : Node) → (node.shift k).lastIndex ≤ node.lastIndex + k
  | .empty | .flags _ | .atom _ | .bracketed _ _ => Nat.zero_le _
  | .repetition body _ _ _ => lastIndex_shift_le k body
  | .group kind body => by
      have hkind := kind.index_shift_le k
      have hbody := lastIndex_shift_le k body
      simp only [shift, lastIndex]
      omega
  | .alternation branches => lastIndices_shifts_le k branches
  | .concat parts => lastIndices_shifts_le k parts

theorem lastIndices_shifts_le (k : Nat) :
    (nodes : List Node) → lastIndices (shifts k nodes) ≤ lastIndices nodes + k
  | [] => Nat.zero_le _
  | node :: nodes => by
      have hnode := lastIndex_shift_le k node
      have hnodes := lastIndices_shifts_le k nodes
      simp only [shifts, lastIndices]
      omega

end

mutual

theorem captures_le_lastIndex : (node : Node) → node.captures ≤ node.lastIndex
  | .empty | .flags _ | .atom _ | .bracketed _ _ => Nat.le_refl _
  | .repetition body _ _ most => by
      have hbody := captures_le_lastIndex body
      simp only [captures, lastIndex]
      split
      · exact Nat.zero_le _
      · exact hbody
  | .group kind body => by
      have hbody := captures_le_lastIndex body
      simp only [captures, lastIndex]
      omega
  | .alternation branches => allCaptures_le_lastIndices branches
  | .concat parts => allCaptures_le_lastIndices parts

theorem allCaptures_le_lastIndices : (nodes : List Node) → allCaptures nodes ≤ lastIndices nodes
  | [] => Nat.le_refl _
  | node :: nodes => by
      have hnode := captures_le_lastIndex node
      have hnodes := allCaptures_le_lastIndices nodes
      simp only [allCaptures, lastIndices]
      omega

end

theorem lastIndices_append (front back : List Node) :
    lastIndices (front ++ back) = max (lastIndices front) (lastIndices back) := by
  induction front with
  | nil => simp [lastIndices]
  | cons node front ih =>
      rw [List.cons_append, lastIndices, lastIndices, ih, Nat.max_assoc]

theorem lastIndices_reverse (nodes : List Node) :
    lastIndices nodes.reverse = lastIndices nodes := by
  induction nodes with
  | nil => rfl
  | cons node nodes ih =>
      rw [List.reverse_cons, lastIndices_append, ih]
      simp only [lastIndices]
      omega

theorem lastIndex_ofParts (parts : List Node) : (ofParts parts).lastIndex = lastIndices parts := by
  match parts with
  | [] => rfl
  | [part] => simp [ofParts, lastIndices]
  | _ :: _ :: _ => rfl

theorem lastIndex_ofBranches (branches : List Node) :
    (ofBranches branches).lastIndex = lastIndices branches := by
  match branches with
  | [] => rfl
  | [branch] => simp [ofBranches, lastIndices]
  | _ :: _ :: _ => rfl

theorem shift_ofParts (k : Nat) (parts : List Node) :
    (ofParts parts).shift k = ofParts (parts.map (shift k)) := by
  match parts with
  | [] => rfl
  | [part] => rfl
  | _ :: _ :: _ => simp only [ofParts, shift, shifts_eq_map, List.map_cons]

theorem shift_ofBranches (k : Nat) (branches : List Node) :
    (ofBranches branches).shift k = ofBranches (branches.map (shift k)) := by
  match branches with
  | [] => rfl
  | [branch] => rfl
  | _ :: _ :: _ => simp only [ofBranches, shift, shifts_eq_map, List.map_cons]

end Node

namespace Row

def shift (k : Nat) (row : Row) : Row := ⟨row.branches.map (Node.shift k), row.parts.map (Node.shift k)⟩

/-- The highest capture group in a row. -/
def lastIndex (row : Row) : Nat := max (Node.lastIndices row.branches) (Node.lastIndices row.parts)

theorem shift_push (k : Nat) (row : Row) (node : Node) :
    (row.push node).shift k = (row.shift k).push (node.shift k) := rfl

theorem shift_zero (row : Row) : row.shift 0 = row := by
  have hmap (nodes : List Node) : nodes.map (Node.shift 0) = nodes := by
    rw [← Node.shifts_eq_map, Node.shifts_zero]
  simp only [shift, hmap]

theorem shift_alternate (k : Nat) (row : Row) : row.alternate.shift k = (row.shift k).alternate := by
  simp only [alternate, shift, List.map_cons, Node.shift_ofParts, List.map_reverse, List.map_nil]

theorem shift_close (k : Nat) (row : Row) : row.close.shift k = (row.shift k).close := by
  rw [close, close, Node.shift_ofBranches, ← shift_alternate]
  simp only [shift, List.map_reverse]

theorem shift_repeatLast {k : Nat} {row next : Row} {greedy : Bool} {least : Nat}
    {most : Option Nat} (h : row.repeatLast greedy least most = .ok next) :
    (row.shift k).repeatLast greedy least most = .ok (next.shift k) := by
  obtain ⟨branches, parts⟩ := row
  cases parts with
  | nil => cases h
  | cons part parts => cases part <;> cases h <;> rfl

theorem lastIndex_push (row : Row) (node : Node) :
    (row.push node).lastIndex = max row.lastIndex node.lastIndex := by
  simp only [lastIndex, push, Node.lastIndices]
  omega

theorem lastIndex_alternate (row : Row) : row.alternate.lastIndex = row.lastIndex := by
  simp only [lastIndex, alternate, Node.lastIndices, Node.lastIndex_ofParts,
    Node.lastIndices_reverse]
  omega

theorem lastIndex_close (row : Row) : row.close.lastIndex = row.lastIndex := by
  rw [close, Node.lastIndex_ofBranches, Node.lastIndices_reverse, ← lastIndex_alternate]
  simp [lastIndex, alternate, Node.lastIndices]

theorem lastIndex_repeatLast {row next : Row} {greedy : Bool} {least : Nat} {most : Option Nat}
    (h : row.repeatLast greedy least most = .ok next) : next.lastIndex = row.lastIndex := by
  obtain ⟨branches, parts⟩ := row
  cases parts with
  | nil => cases h
  | cons part parts => cases part <;> cases h <;> rfl

end Row
end Highlight.Pattern
