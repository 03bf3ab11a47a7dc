import Highlight.Digit
import Highlight.Toml.Reader

/-!
Strings. Double quotes allow escapes, single quotes do not; three quotes of a kind open a string of
several lines, in which one or two quotes may also stand right before the closing three.
-/

namespace Highlight.Toml

open Reader

def codePoint (count : Nat) : Reader Char := do
  let digits := (← get).take count
  guard (digits.length = count)
  set ((← get).drop count)
  charOf? (← number? 16 digits)

def escaped : Reader Char := do
  match ← next with
  | 'b' => return '\x08'
  | 'f' => return '\x0c'
  | 'n' => return '\n'
  | 'r' => return '\r'
  | 't' => return '\t'
  | '"' => return '"'
  | '\\' => return '\\'
  | 'u' => codePoint 4
  | 'U' => codePoint 8
  | _ => failure

inductive Quote
  | double
  | single
  deriving DecidableEq, Repr

def Quote.char : Quote → Char
  | double => '"'
  | single => '\''

def Quote.escapes : Quote → Bool
  | double => true
  | single => false

def character (quote : Quote) : Reader Char := do
  let c ← next
  if quote.escapes && c = '\\' then escaped
  else do
    guard (isPlain c)
    return c

def line (quote : Quote) : Reader Text := do
  expect [quote.char]
  many do
    if ← accept [quote.char] then return none
    return some (← character quote)

/-- A backslash at the end of a line, with all the blanks and lines behind it. -/
def continuation : Reader Unit := do
  expect ['\\']
  blanks
  guard (← newline)
  blankLines

/-- The string between three quotes on each side. A line end right behind the opening is dropped. -/
def lines (quote : Quote) : Reader Text := do
  let fence := List.replicate 3 quote.char
  expect fence
  discard newline
  let body ← many do
    if fence.isPrefixOf (← get) then return none
    if ← newline then return some ['\n']
    if quote.escapes then
      (do
        continuation
        return some []) <|> (return some [← character quote])
    else return some [← character quote]
  let quotes ← span (· = quote.char)
  guard (quotes.length ≤ 5)
  return body.flatten ++ quotes.drop 3

def string : Reader Text :=
  lines .double <|> line .double <|> lines .single <|> line .single

end Highlight.Toml
