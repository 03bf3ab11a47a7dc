import Highlight.CharSet
import Mathlib.Data.List.SplitBy
import Mathlib.Data.List.Sort

/-!
What sets of characters hold. Ranges are taken in any order and put into a normal form, ascending
and with gaps between them; `contains_ofRanges` says that this loses and adds no character, and
`contains_complement` that what lies between ranges in normal form is what they leave out.
-/

namespace Highlight.CharSet

variable {s : CharSet} {sets : List CharSet} {as bs ranges : List (Nat × Nat)}
  {runs : List (List (Nat × Nat))} {range : Nat × Nat} {start n : Nat} {c : Char}

def Covers (ranges : List (Nat × Nat)) (n : Nat) : Prop :=
  ∃ range ∈ ranges, range.1 ≤ n ∧ n ≤ range.2

theorem covers_nil : ¬Covers [] n := by
  rintro ⟨_, hmem, -⟩
  cases hmem

theorem covers_cons : Covers (range :: ranges) n ↔ range.1 ≤ n ∧ n ≤ range.2 ∨ Covers ranges n := by
  simp only [Covers, List.mem_cons, or_and_right, exists_or, exists_eq_left]

theorem covers_congr (h : as.Perm bs) : Covers as n ↔ Covers bs n :=
  exists_congr fun _ => and_congr_left' h.mem_iff

theorem covers_flatMap {α : Type} {f : α → List (Nat × Nat)} {list : List α} :
    Covers (list.flatMap f) n ↔ ∃ x ∈ list, Covers (f x) n := by
  constructor
  · rintro ⟨range, hmem, hin⟩
    obtain ⟨x, hx, hrange⟩ := List.mem_flatMap.1 hmem
    exact ⟨x, hx, range, hrange, hin⟩
  · rintro ⟨x, hx, range, hrange, hin⟩
    exact ⟨range, List.mem_flatMap.2 ⟨x, hx, hrange⟩, hin⟩

theorem contains_iff : s.contains c = true ↔ Covers s.ranges c.toNat := by
  simp [contains, containsCode, Covers]

theorem isScalar_toNat (c : Char) : c.toNat < 0xd800 ∨ 0xdfff < c.toNat ∧ c.toNat < 0x110000 :=
  c.valid

theorem covers_scalars : Covers (scalars range) c.toNat ↔ range.1 ≤ c.toNat ∧ c.toNat ≤ range.2 := by
  have hscalar := isScalar_toNat c
  rw [scalars]
  split
  · simp [Covers]
  · next h =>
      simp only [Bool.or_eq_true, decide_eq_true_eq, not_or] at h
      simp only [Covers, List.mem_filter, List.mem_cons, List.not_mem_nil, or_false,
        decide_eq_true_eq, and_assoc, or_and_right, exists_or, exists_eq_left]
      omega

theorem le_of_mem_scalars (h : range.1 ≤ range.2) : ∀ part ∈ scalars range, part.1 ≤ part.2 := by
  rw [scalars]
  split
  · simpa using h
  · intro part hpart
    exact of_decide_eq_true (List.mem_filter.1 hpart).2

def Ascends (ranges : List (Nat × Nat)) : Prop := ranges.Pairwise fun a b => a.1 ≤ b.1

theorem merge_perm (as bs : List (Nat × Nat)) : (merge as bs).Perm (as ++ bs) := by
  fun_induction merge as bs with
  | case1 bs => exact .refl _
  | case2 as _ => rw [List.append_nil]
  | case3 a as b bs _ ih => exact ih.cons a
  | case4 a as b bs _ ih => exact (ih.cons b).trans List.perm_middle.symm

theorem ascends_merge (ha : Ascends as) (hb : Ascends bs) : Ascends (merge as bs) := by
  fun_induction merge as bs with
  | case1 bs => exact hb
  | case2 as _ => exact ha
  | case3 a as b bs hle ih =>
      obtain ⟨hfirst, hrest⟩ := List.pairwise_cons.1 ha
      refine List.pairwise_cons.2 ⟨fun other hmem => ?_, ih hrest hb⟩
      rcases List.mem_append.1 ((merge_perm _ _).mem_iff.1 hmem) with hmem | hmem
      · exact hfirst other hmem
      · rcases List.mem_cons.1 hmem with rfl | hmem
        · exact hle
        · exact Nat.le_trans hle ((List.pairwise_cons.1 hb).1 other hmem)
  | case4 a as b bs hlt ih =>
      obtain ⟨hfirst, hrest⟩ := List.pairwise_cons.1 hb
      refine List.pairwise_cons.2 ⟨fun other hmem => ?_, ih ha hrest⟩
      rcases List.mem_append.1 ((merge_perm _ _).mem_iff.1 hmem) with hmem | hmem
      · rcases List.mem_cons.1 hmem with rfl | hmem
        · omega
        · have := (List.pairwise_cons.1 ha).1 other hmem
          omega
      · exact hfirst other hmem

theorem foldr_merge_perm (runs : List (List (Nat × Nat))) :
    (runs.foldr merge []).Perm runs.flatten := by
  induction runs with
  | nil => exact .refl _
  | cons run runs ih => exact (merge_perm _ _).trans (ih.append_left run)

theorem ascends_foldr_merge (h : ∀ run ∈ runs, Ascends run) : Ascends (runs.foldr merge []) := by
  induction runs with
  | nil => exact .nil
  | cons run runs ih =>
      obtain ⟨hrun, hruns⟩ := List.forall_mem_cons.1 h
      exact ascends_merge hrun (ih hruns)

def sorted (ranges : List (Nat × Nat)) : List (Nat × Nat) :=
  (ranges.splitBy fun a b => a.1 ≤ b.1).foldr merge []

theorem sorted_perm (ranges : List (Nat × Nat)) : (sorted ranges).Perm ranges := by
  have hperm := foldr_merge_perm (ranges.splitBy fun a b => a.1 ≤ b.1)
  rwa [List.flatten_splitBy] at hperm

theorem ascends_sorted (ranges : List (Nat × Nat)) : Ascends (sorted ranges) := by
  refine ascends_foldr_merge fun run hrun => ?_
  have hchain := List.isChain_of_mem_splitBy hrun
  have htrans : IsTrans (Nat × Nat) fun a b => a.1 ≤ b.1 := ⟨fun _ _ _ => Nat.le_trans⟩
  exact List.isChain_iff_pairwise.1 (hchain.imp fun a b h => of_decide_eq_true h)

theorem covers_join (h : Ascends ranges) : Covers (join ranges) n ↔ Covers ranges n := by
  fun_induction join ranges with
  | case1 a b rest hle ih =>
      obtain ⟨hfirst, hrest⟩ := List.pairwise_cons.1 h
      obtain ⟨hsecond, hrest⟩ := List.pairwise_cons.1 hrest
      have hab : a.1 ≤ b.1 := hfirst b List.mem_cons_self
      have hjoined : Ascends ((a.1, max a.2 b.2) :: rest) :=
        List.pairwise_cons.2 ⟨fun c hc => hfirst c (List.mem_cons_of_mem b hc), hrest⟩
      rw [ih hjoined, covers_cons, covers_cons, covers_cons, ← or_assoc]
      refine or_congr_left ?_
      simp only
      omega
  | case2 a b rest hlt ih =>
      rw [covers_cons, covers_cons, ih (List.pairwise_cons.1 h).2]
  | case3 ranges hshort => rfl

theorem exists_of_mem_join (h : range ∈ join ranges) : ∃ first ∈ ranges, first.1 = range.1 := by
  fun_induction join ranges with
  | case1 a b rest hle ih =>
      obtain ⟨first, hfirst, heq⟩ := ih h
      rcases List.mem_cons.1 hfirst with rfl | hfirst
      · exact ⟨a, List.mem_cons_self, heq⟩
      · exact ⟨first, List.mem_cons_of_mem a (List.mem_cons_of_mem b hfirst), heq⟩
  | case2 a b rest hlt ih =>
      rcases List.mem_cons.1 h with rfl | h
      · exact ⟨_, List.mem_cons_self, rfl⟩
      · obtain ⟨first, hfirst, heq⟩ := ih h
        exact ⟨first, List.mem_cons_of_mem a hfirst, heq⟩
  | case3 ranges hshort => exact ⟨range, h, rfl⟩

/-- The normal form of ranges: none is empty, and they ascend with gaps between them. -/
structure Spaced (ranges : List (Nat × Nat)) : Prop where
  le : ∀ range ∈ ranges, range.1 ≤ range.2
  apart : ranges.Pairwise fun a b => a.2 + 1 < b.1

theorem spaced_join (h : Ascends ranges) (hle : ∀ range ∈ ranges, range.1 ≤ range.2) :
    Spaced (join ranges) := by
  fun_induction join ranges with
  | case1 a b rest hnear ih =>
      obtain ⟨ha, hb⟩ := List.forall_mem_cons.1 hle
      obtain ⟨hfirst, hrest⟩ := List.pairwise_cons.1 h
      refine ih (List.pairwise_cons.2 ⟨fun c hc => hfirst c (List.mem_cons_of_mem b hc),
        (List.pairwise_cons.1 hrest).2⟩) (List.forall_mem_cons.2 ⟨?_, fun c hc => ?_⟩)
      · simp only
        omega
      · exact hb c (List.mem_cons_of_mem b hc)
  | case2 a b rest hfar ih =>
      obtain ⟨ha, hb⟩ := List.forall_mem_cons.1 hle
      obtain ⟨-, hrest⟩ := List.pairwise_cons.1 h
      have hjoined := ih hrest hb
      refine ⟨List.forall_mem_cons.2 ⟨ha, hjoined.le⟩,
        List.pairwise_cons.2 ⟨fun c hc => ?_, hjoined.apart⟩⟩
      obtain ⟨first, hmem, heq⟩ := exists_of_mem_join hc
      have hbegin : b.1 ≤ first.1 := by
        rcases List.mem_cons.1 hmem with rfl | hmem
        · exact Nat.le_refl _
        · exact (List.pairwise_cons.1 hrest).1 first hmem
      omega
  | case3 ranges hshort =>
      refine ⟨hle, ?_⟩
      match ranges, hshort with
      | [], _ => exact .nil
      | [_], _ => exact List.pairwise_singleton _ _
      | a :: b :: rest, hshort => exact absurd rfl (hshort a b rest)

/-- What lies between ranges in normal form is what they leave out. -/
theorem covers_gaps (h : Spaced ranges) (hstart : ∀ range ∈ ranges, start ≤ range.1)
    (hn : n < 0x110000) : Covers (gaps start ranges) n ↔ start ≤ n ∧ ¬Covers ranges n := by
  induction ranges generalizing start with
  | nil =>
      simp only [gaps, covers_nil, not_false_eq_true, and_true]
      split
      · simp only [Covers, List.mem_singleton, exists_eq_left]
        omega
      · exact iff_of_false covers_nil (by omega)
  | cons range ranges ih =>
      obtain ⟨hle, hrest⟩ := List.forall_mem_cons.1 h.le
      obtain ⟨hfar, hapart⟩ := List.pairwise_cons.1 h.apart
      have hbehind : Covers (gaps (range.2 + 1) ranges) n ↔
          range.2 + 1 ≤ n ∧ ¬Covers ranges n :=
        ih ⟨hrest, hapart⟩ fun other hmem => Nat.le_of_lt (hfar other hmem)
      have hahead : n ≤ range.2 → ¬Covers ranges n := by
        rintro hnle ⟨other, hmem, hother, -⟩
        have := hfar other hmem
        omega
      have hfirst := hstart range List.mem_cons_self
      rw [gaps, covers_cons, not_or]
      split
      · rw [covers_cons, hbehind]
        grind
      · rw [hbehind]
        grind

theorem ofRanges_eq (ranges : List (Nat × Nat)) :
    ofRanges ranges = ⟨join (sorted (ranges.flatMap scalars))⟩ := rfl

/-- A set of ranges holds what they cover, in whatever order they come. -/
theorem contains_ofRanges : (ofRanges ranges).contains c = true ↔ Covers ranges c.toNat := by
  rw [contains_iff, ofRanges_eq, covers_join (ascends_sorted _), covers_congr (sorted_perm _),
    covers_flatMap]
  simp only [covers_scalars]
  rfl

theorem spaced_ofRanges (h : ∀ range ∈ ranges, range.1 ≤ range.2) :
    Spaced (ofRanges ranges).ranges := by
  refine spaced_join (ascends_sorted _) fun part hpart => ?_
  obtain ⟨range, hrange, hpart⟩ := List.mem_flatMap.1 ((sorted_perm _).mem_iff.1 hpart)
  exact le_of_mem_scalars (h range hrange) part hpart

theorem contains_singleton {d : Char} : (singleton d).contains c = true ↔ c = d := by
  rw [contains_iff, singleton, covers_cons, or_iff_left covers_nil, ← Char.toNat_inj]
  simp only
  omega

theorem contains_unionAll :
    (unionAll sets).contains c = true ↔ ∃ s ∈ sets, s.contains c = true := by
  rw [unionAll, contains_ofRanges, covers_flatMap]
  simp only [contains_iff]

theorem contains_complement (h : Spaced s.ranges) :
    s.complement.contains c = true ↔ ¬s.contains c = true := by
  have hc : c.toNat < 0x110000 := by
    have hscalar := isScalar_toNat c
    omega
  rw [complement, contains_ofRanges, covers_gaps h (fun _ _ => Nat.zero_le _) hc, contains_iff]
  exact and_iff_right (Nat.zero_le _)

end Highlight.CharSet
