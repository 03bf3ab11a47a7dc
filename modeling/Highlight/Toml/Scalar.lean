import Highlight.Digit
import Highlight.Toml.Reader

/-!
Values other than strings and collections: truth values, whole and broken numbers, dates and times.
Settings have no use for them, so that they are recognised and checked but not kept.
-/

namespace Highlight.Toml

open Reader

def groupedDigits (base : Nat) : Reader Text := do
  let first ← span (isDigitIn base)
  guard !first.isEmpty
  let more ← many do
    if ← accept ['_'] then
      let digits ← span (isDigitIn base)
      guard !digits.isEmpty
      return some digits
    else return none
  return first ++ more.flatten

def negativeSign : Reader Bool := do
  if ← accept ['-'] then return true
  discard (accept ['+'])
  return false

/-- The sign and the digits of a decimal number, which has no needless zero in front. -/
def decimal : Reader (Bool × Text) := do
  let negative ← negativeSign
  let digits ← groupedDigits 10
  guard (digits.length = 1 || digits.head? ≠ some '0')
  return (negative, digits)

/-- Whole numbers have 64 bits, one of them for the sign. -/
def integer : Reader Unit := do
  let (negative, digits) ← decimal
  let value ← number? 10 digits
  guard (value < Nat.pow 2 63 + negative.toNat)

def integerIn (mark : Char) (base : Nat) : Reader Unit := do
  expect ['0', mark]
  let value ← number? base (← groupedDigits base)
  guard (value < Nat.pow 2 63)

/-- Whether `significand * 10 ^ (up - down)` is too great for a double. The number of digits decides
unless it is close to the bound. -/
def isInfinite (significand up down : Nat) : Bool :=
  let size := (Nat.toDigits 10 significand).length + up
  if significand = 0 || size < down + 300 then false
  else if down + 320 < size then true
  else doubleBound * Nat.pow 10 down ≤ significand * Nat.pow 10 up

def fraction : Reader Text := do
  expect ['.']
  groupedDigits 10

def exponent : Reader (Bool × Text) := do
  if !(← accept ['e']) then expect ['E']
  return (← negativeSign, ← groupedDigits 10)

/-- Numbers with a fraction or an exponent; the great ones must be finite. -/
def broken : Reader Unit := do
  let (negative, whole) ← decimal
  let (digits, down, power) ←
    (do
      let digits ← fraction
      return (digits, ← exponent <|> pure (false, ['0']))) <|>
    (do return ([], ← exponent))
  let significand ← number? 10 (whole ++ digits)
  let size ← number? 10 power
  let drop := digits.length + if down then size else 0
  guard (negative || !isInfinite significand (if down then 0 else size) drop)

def special : Reader Unit := do
  discard negativeSign
  expect "inf".toList <|> expect "nan".toList

def truth : Reader Unit := expect "true".toList <|> expect "false".toList

def fixedNumber (count : Nat) : Reader Nat := do
  let digits := (← get).take count
  guard (digits.length = count && digits.all Char.isDigit)
  set ((← get).drop count)
  number? 10 digits

def isLeapYear (year : Nat) : Bool := year % 4 = 0 && (year % 100 ≠ 0 || year % 400 = 0)

def daysIn (year month : Nat) : Nat :=
  if month = 2 then if isLeapYear year then 29 else 28
  else if month ∈ [4, 6, 9, 11] then 30
  else 31

def date : Reader Unit := do
  let year ← fixedNumber 4
  expect ['-']
  let month ← fixedNumber 2
  expect ['-']
  let day ← fixedNumber 2
  guard (1 ≤ month && month ≤ 12 && 1 ≤ day && day ≤ daysIn year month)

def clock : Reader Unit := do
  let hour ← fixedNumber 2
  expect [':']
  let minute ← fixedNumber 2
  guard (hour < 24 && minute < 60)

/-- A time of day; a minute may have a leap second. -/
def time : Reader Unit := do
  clock
  expect [':']
  let second ← fixedNumber 2
  guard (second ≤ 60)
  optional do
    expect ['.']
    guard !(← span Char.isDigit).isEmpty

def offset : Reader Unit := do
  match ← next with
  | 'Z' | 'z' => return
  | '+' | '-' => clock
  | _ => failure

def dateTime : Reader Unit :=
  (do
    date
    optional do
      guard ((← next) ∈ ['T', 't', ' '])
      time
      optional offset) <|> time

def scalar : Reader Unit :=
  truth <|> special <|> dateTime <|> broken <|> integerIn 'x' 16 <|> integerIn 'o' 8 <|>
    integerIn 'b' 2 <|> integer

end Highlight.Toml
