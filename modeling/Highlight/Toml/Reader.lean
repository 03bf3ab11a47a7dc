import Highlight.Text

/-!
Reading from the front of a text: what is read is taken off, or the reading fails. `many` runs a
step until it says that nothing more follows; a step that takes nothing off must not go on for
ever, so the number of steps is bounded by the length of the text.
-/

namespace Highlight.Toml

abbrev Reader := StateT Text Option

namespace Reader

def peek? : Reader (Option Char) := return (← get).head?

def next : Reader Char
  | [] => none
  | c :: text => some (c, text)

def accept (piece : Text) : Reader Bool := fun text =>
  match Text.after? piece text with
  | some rest => some (true, rest)
  | none => some (false, text)

def expect (piece : Text) : Reader Unit := fun text => (Text.after? piece text).map ((), ·)

def span (p : Char → Bool) : Reader Text := fun text =>
  some (text.takeWhile p, text.dropWhile p)

def isAtEnd : Reader Bool := return (← get).isEmpty

def optional (reader : Reader Unit) : Reader Unit := reader <|> pure ()

def upTo (step : Reader (Option α)) : (count : Nat) → Reader (List α)
  | 0 => failure
  | count + 1 => do
    match ← step with
    | some a => return a :: (← upTo step count)
    | none => return []

def many (step : Reader (Option α)) : Reader (List α) := do
  upTo step ((← get).length + 1)

end Reader

open Reader

def isBlank (c : Char) : Bool := c = ' ' || c = '\t'

/-- What comments may hold, and strings apart from their quotes and escapes. -/
def isPlain (c : Char) : Bool := c = '\t' || (0x20 ≤ c.toNat && c ≠ '\x7f')

def blanks : Reader Unit := discard (span isBlank)

def newline : Reader Bool := do
  if ← accept ['\n'] then return true
  accept ['\r', '\n']

def comment : Reader Unit := do
  if ← accept ['#'] then discard (span isPlain)

def lineEnd : Reader Unit := do
  blanks
  comment
  if !(← newline) then guard (← isAtEnd)

/-- Blanks, comments and ends of lines, as they may stand between the items of an array. -/
def space : Reader Unit :=
  discard <| many do
    let before := (← get).length
    blanks
    comment
    discard newline
    return if (← get).length < before then some () else none

def blankLines : Reader Unit :=
  discard <| many do
    let before := (← get).length
    blanks
    discard newline
    return if (← get).length < before then some () else none

end Highlight.Toml
