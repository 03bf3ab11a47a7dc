import Highlight.CharSet.Bytes
import Highlight.Text

/-!
Text as it goes to a place that is no terminal: without control characters and without the sequences
that tell a terminal what to do.
-/

namespace Highlight.Terminal

/-- The part of a control sequence that is being read. Sequences of parameters end with a letter,
device sequences have a header and a body, and the bodies of strings run up to a terminator. -/
inductive Mode
  | ground
  | escape
  | intermediate
  | parameters
  | deviceEntry
  | deviceParameters
  | deviceIntermediate
  | command
  | string
  deriving DecidableEq, Repr

def afterEscape (byte : Nat) : Mode :=
  if byte < 0x20 || 0x7e < byte then .escape
  else if byte < 0x30 then .intermediate
  else if byte = 0x5b then .parameters
  else if byte = 0x5d then .command
  else if byte = 0x50 then .deviceEntry
  else if byte = 0x58 || byte = 0x5e || byte = 0x5f then .string
  else .ground

def afterHeader (mode : Mode) (byte : Nat) : Mode :=
  if byte < 0x20 || 0x7e < byte then mode
  else if byte < 0x30 then .deviceIntermediate
  else if 0x40 ≤ byte || mode = .deviceIntermediate then .string
  else if mode = .deviceParameters && 0x3c ≤ byte then .string
  else .deviceParameters

def step (mode : Mode) (byte : Nat) : Mode :=
  if byte = 0x1b then .escape
  else if byte = 0x18 || byte = 0x1a then .ground
  else
    match mode with
    | .ground => .ground
    | .escape => afterEscape byte
    | .intermediate => if 0x30 ≤ byte && byte ≤ 0x7e then .ground else .intermediate
    | .parameters => if 0x40 ≤ byte && byte ≤ 0x7e then .ground else .parameters
    | .deviceEntry | .deviceParameters | .deviceIntermediate => afterHeader mode byte
    | .command => if byte = 7 then .ground else .command
    | .string => if byte = 0x9c then .ground else .string

/-- Blanks are shown even in the midst of some sequences. -/
def isBlank (c : Char) : Bool := c ∈ [' ', '\t', '\n', '\x0c', '\r']

def isControl (c : Char) : Bool := (c.toNat < 0x20 || c.toNat = 0x7f) && !isBlank c

def isShown (mode : Mode) (c : Char) : Bool :=
  match mode with
  | .ground => !isControl c
  | .escape | .intermediate | .parameters => isBlank c && c ≠ ' '
  | _ => false

/-- What is shown of a text. A blank in the midst of a sequence suspends it until the next control
character or the next character outside of ASCII. -/
def shownFrom : (mode : Mode) → (suspended : Bool) → Text → Text
  | _, _, [] => []
  | mode, suspended, c :: text =>
    if suspended && !isControl c then
      c :: shownFrom (if c.toNat < 0x80 then mode else .ground) true text
    else if isShown mode c then c :: shownFrom mode true text
    else shownFrom ((CharSet.encode c.toNat).foldl step mode) false text

def shown (text : Text) : Text := shownFrom .ground false text

end Highlight.Terminal
