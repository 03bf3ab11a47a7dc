import Highlight.CharSet

/-!
The bytes of characters. A set of characters becomes a list of sequences: each gives a range for
every byte, and together they hold the encodings of the members.
-/

namespace Highlight.CharSet

def encode (n : Nat) : List Nat :=
  if n < 0x80 then [n]
  else if n < 0x800 then [0xc0 + n / 64, 0x80 + n % 64]
  else if n < 0x10000 then [0xe0 + n / 4096, 0x80 + n / 64 % 64, 0x80 + n % 64]
  else [0xf0 + n / 262144, 0x80 + n / 4096 % 64, 0x80 + n / 64 % 64, 0x80 + n % 64]

/-- Where a range ends that begins like another but whose encodings have a given length or whose
last bytes take all values: blocks are what a number of last bytes can tell apart. -/
def cutAtBlock? (block first last : Nat) : Option Nat :=
  if first / block = last / block then none
  else if first % block ≠ 0 then some ((first / block + 1) * block - 1)
  else if last % block ≠ block - 1 then some (last / block * block - 1)
  else none

def cut? (first last : Nat) : Option Nat :=
  match [0x7f, 0x7ff, 0xffff].find? fun most => first ≤ most && most < last with
  | some most => some most
  | none => if last < 0x80 then none else [64, 4096, 262144].findSome? (cutAtBlock? · first last)

/-- The sequences of byte ranges for a range of code points. It is cut until each byte may be chosen
apart from the others. -/
def sequences (first last : Nat) : List (List (Nat × Nat)) :=
  match cut? first last with
  | none => [(encode first).zip (encode last)]
  | some cut =>
    if _h : first ≤ cut ∧ cut < last then sequences first cut ++ sequences (cut + 1) last
    else [(encode first).zip (encode last)]
termination_by last - first

def byteRanges (s : CharSet) : List (List (Nat × Nat)) :=
  s.ranges.flatMap fun range => sequences range.1 range.2

end Highlight.CharSet
