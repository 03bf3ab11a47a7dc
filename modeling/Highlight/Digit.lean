import Highlight.Text

/-!
Digits of a base up to sixteen, the numbers they spell, and the characters behind code points.
-/

namespace Highlight

def digitValue? (c : Char) : Option Nat :=
  if c.isDigit then some (c.toNat - 48)
  else if 'a' ≤ c && c ≤ 'f' then some (c.toNat - 87)
  else if 'A' ≤ c && c ≤ 'F' then some (c.toNat - 55)
  else none

def isDigitIn (base : Nat) (c : Char) : Bool := (digitValue? c).any (· < base)

/-- The number that digits spell when they follow digits that spell `start`. -/
def numberFrom? (base start : Nat) : Text → Option Nat
  | [] => some start
  | c :: text =>
    (digitValue? c).bind fun digit =>
      if digit < base then numberFrom? base (base * start + digit) text else none

def number? (base : Nat) (digits : Text) : Option Nat := numberFrom? base 0 digits

/-- Decimals from here on are rounded to infinity by a double. -/
def doubleBound : Nat := Nat.pow 2 1024 - Nat.pow 2 970

/-- The character of a code point; surrogates and numbers past the last plane have none. -/
def charOf? (n : Nat) : Option Char := if n.isValidChar then some (Char.ofNat n) else none

end Highlight
