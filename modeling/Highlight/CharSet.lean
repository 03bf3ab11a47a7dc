/-!
Sets of characters, as ascending ranges of code points with gaps between them. Surrogates are no
characters and belong to no set.
-/

namespace Highlight

structure CharSet where
  ranges : List (Nat × Nat)
  deriving DecidableEq, Repr

namespace CharSet

/-- The parts of a range before and behind the surrogates. -/
def scalars (range : Nat × Nat) : List (Nat × Nat) :=
  if range.2 < 0xd800 || 0xdfff < range.1 then [range]
  else [(range.1, 0xd7ff), (0xe000, range.2)].filter fun part => part.1 ≤ part.2

/-- Joins the ranges of an ascending list that touch each other. -/
def join : List (Nat × Nat) → List (Nat × Nat)
  | a :: b :: rest =>
    if b.1 ≤ a.2 + 1 then join ((a.1, max a.2 b.2) :: rest) else a :: join (b :: rest)
  | ranges => ranges
termination_by ranges => ranges.length

def merge : List (Nat × Nat) → List (Nat × Nat) → List (Nat × Nat)
  | [], bs => bs
  | as, [] => as
  | a :: as, b :: bs => if a.1 ≤ b.1 then a :: merge as (b :: bs) else b :: merge (a :: as) bs
termination_by as bs => as.length + bs.length

/-- The members of any ranges. Those that already ascend are put in order together. -/
def ofRanges (ranges : List (Nat × Nat)) : CharSet :=
  ⟨join (((ranges.flatMap scalars).splitBy fun a b => a.1 ≤ b.1).foldr merge [])⟩

def empty : CharSet := ⟨[]⟩

def range (first last : Nat) : CharSet := ofRanges [(first, last)]

def singleton (c : Char) : CharSet := ⟨[(c.toNat, c.toNat)]⟩

def full : CharSet := range 0 0x10ffff

def union (a b : CharSet) : CharSet := ofRanges (a.ranges ++ b.ranges)

def unionAll (sets : List CharSet) : CharSet := ofRanges (sets.flatMap ranges)

/-- What lies between ascending ranges, from `start` on. -/
def gaps (start : Nat) : List (Nat × Nat) → List (Nat × Nat)
  | [] => if start ≤ 0x10ffff then [(start, 0x10ffff)] else []
  | range :: ranges =>
    if start < range.1 then (start, range.1 - 1) :: gaps (range.2 + 1) ranges
    else gaps (range.2 + 1) ranges

def complement (s : CharSet) : CharSet := ofRanges (gaps 0 s.ranges)

def negateIf (negated : Bool) (s : CharSet) : CharSet := if negated then s.complement else s

def intersection (a b : CharSet) : CharSet := (a.complement.union b.complement).complement

def difference (a b : CharSet) : CharSet := a.intersection b.complement

def symmetricDifference (a b : CharSet) : CharSet := (a.union b).difference (a.intersection b)

def containsCode (s : CharSet) (n : Nat) : Bool :=
  s.ranges.any fun range => range.1 ≤ n && n ≤ range.2

def contains (s : CharSet) (c : Char) : Bool := s.containsCode c.toNat

def isEmpty (s : CharSet) : Bool := s.ranges.isEmpty

def isAscii (s : CharSet) : Bool := s.ranges.all fun range => range.2 < 128

def single? (s : CharSet) : Option Nat :=
  match s.ranges with
  | [(first, last)] => if first = last then some first else none
  | _ => none

end CharSet
end Highlight
