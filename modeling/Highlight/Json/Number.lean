import Highlight.Digit

/-!
Numbers in JSON text: their grammar, and which of them a double can hold. The significand is taken
up to 64 bits, and the product with the power of ten is what may exceed the range.
-/

namespace Highlight.Json

/-- A number as written: the exponent keeps its mark and sign beside its digits. -/
structure Numeral where
  negative : Bool
  whole : Text
  fraction : Option Text
  exponent : Option (Text × Text)
  deriving DecidableEq, Repr

namespace Numeral

def spelling (n : Numeral) : Text :=
  (if n.negative then ['-'] else []) ++ n.whole ++
    (match n.fraction with
      | some digits => '.' :: digits
      | none => []) ++
    (match n.exponent with
      | some (mark, digits) => mark ++ digits
      | none => [])

def readFraction? : Text → Option (Option Text × Text)
  | '.' :: text =>
    if (text.takeWhile Char.isDigit).isEmpty then none
    else some (some (text.takeWhile Char.isDigit), text.dropWhile Char.isDigit)
  | text => some (none, text)

def exponentMark? : Text → Option (Text × Text)
  | c :: d :: text =>
    if c = 'e' || c = 'E' then
      if d = '+' || d = '-' then some ([c, d], text) else some ([c], d :: text)
    else none
  | [c] => if c = 'e' || c = 'E' then some ([c], []) else none
  | [] => none

def readExponent? (text : Text) : Option (Option (Text × Text) × Text) :=
  match exponentMark? text with
  | some (mark, rest) =>
    if (rest.takeWhile Char.isDigit).isEmpty then none
    else some (some (mark, rest.takeWhile Char.isDigit), rest.dropWhile Char.isDigit)
  | none => some (none, text)

/-- A whole part is not empty and has no needless zero in front. -/
def isWhole : Text → Bool
  | [] => false
  | [_] => true
  | c :: _ => c ≠ '0'

def read? (text : Text) : Option (Numeral × Text) :=
  let negative := text.head? = some '-'
  let body := if negative then text.tail else text
  let whole := body.takeWhile Char.isDigit
  if isWhole whole then
    match readFraction? (body.dropWhile Char.isDigit) with
    | some (fraction, rest) =>
      match readExponent? rest with
      | some (exponent, rest) => some (⟨negative, whole, fraction, exponent⟩, rest)
      | none => none
    | none => none
  else none

def digitsValue (digits : Text) : Nat := digits.foldl (fun n c => 10 * n + (c.toNat - 48)) 0

/-- Takes up digits behind `n` as long as 64 bits hold the number, and counts those left over. -/
def absorb (n : Nat) : Text → Nat × Nat
  | [] => (n, 0)
  | c :: digits =>
    if 10 * n + (c.toNat - 48) < Nat.pow 2 64 then absorb (10 * n + (c.toNat - 48)) digits
    else (n, digits.length + 1)

/-- The nearest number with 53 significant bits; halves go to the even neighbour. -/
def round53 (n : Nat) : Nat :=
  if n < Nat.pow 2 53 then n
  else
    let unit := Nat.pow 2 (n.log2 - 52)
    let low := n / unit
    let twice := 2 * (n % unit)
    if twice < unit || (twice = unit && low % 2 = 0) then low * unit else (low + 1) * unit

def inRange (n : Numeral) : Bool :=
  let (whole, dropped) := absorb 0 n.whole
  let fraction := n.fraction.getD []
  let (significand, unread) := absorb whole fraction
  let base : Int := dropped - (fraction.length - unread : Nat)
  let (down, size) : Bool × Nat := match n.exponent with
    | some (mark, digits) => (mark.getLast? == some '-', digitsValue digits)
    | none => (false, 0)
  let power : Int := if down then base - size else base + size
  if significand = 0 then true
  else if size > 2147483647 then down
  else if power > 308 then false
  else if power < 0 then true
  else round53 significand * round53 (Nat.pow 10 power.toNat) < doubleBound

theorem length_of_readFraction? {text rest : Text} {fraction : Option Text}
    (h : readFraction? text = some (fraction, rest)) : rest.length ≤ text.length := by
  unfold readFraction? at h
  split at h
  · next text =>
    split at h
    · cases h
    · cases h
      have := (List.dropWhile_sublist (l := text) Char.isDigit).length_le
      simp only [List.length_cons]
      omega
  · cases h
    exact Nat.le_refl _

theorem length_of_exponentMark? {text mark rest : Text}
    (h : exponentMark? text = some (mark, rest)) : rest.length ≤ text.length := by
  unfold exponentMark? at h
  split at h
  · split at h
    · split at h <;> cases h <;> simp only [List.length_cons] <;> omega
    · cases h
  · split at h <;> cases h
    simp
  · cases h

theorem length_of_readExponent? {text rest : Text} {exponent : Option (Text × Text)}
    (h : readExponent? text = some (exponent, rest)) : rest.length ≤ text.length := by
  unfold readExponent? at h
  split at h
  · next mark after hmark =>
    have h1 := length_of_exponentMark? hmark
    split at h
    · cases h
    · cases h
      have := (List.dropWhile_sublist (l := after) Char.isDigit).length_le
      omega
  · cases h
    exact Nat.le_refl _

theorem length_of_read? {text rest : Text} {n : Numeral} (h : read? text = some (n, rest)) :
    rest.length < text.length := by
  simp only [read?] at h
  generalize hbody : (if text.head? = some '-' then text.tail else text) = body at h
  have hle : body.length ≤ text.length := by
    rw [← hbody]
    split
    · simp
    · exact Nat.le_refl _
  have hsplit :=
    congrArg List.length (List.takeWhile_append_dropWhile (p := Char.isDigit) (l := body))
  simp only [List.length_append] at hsplit
  split at h
  · next hwhole =>
    have hpos : 0 < (body.takeWhile Char.isDigit).length := by
      cases hw : body.takeWhile Char.isDigit with
      | nil => simp [hw, isWhole] at hwhole
      | cons c w => simp
    split at h
    · next hfraction =>
      have h1 := length_of_readFraction? hfraction
      split at h
      · next hexponent =>
        have h2 := length_of_readExponent? hexponent
        cases h
        omega
      · cases h
    · cases h
  · cases h

end Numeral
end Highlight.Json
