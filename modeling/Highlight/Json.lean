import Highlight.Text

/-!
JSON values and their two written forms: `compact` on one line without blanks, `pretty` with one
item a line and two blanks for each level.
-/

namespace Highlight

/-- A JSON value. Numbers keep their spelling, objects keep the order of their fields. -/
inductive Json
  | null
  | bool (value : Bool)
  | number (spelling : Text)
  | string (value : Text)
  | array (items : List Json)
  | object (fields : List (Text × Json))

namespace Json

def hexDigit (n : Nat) : Char := Nat.digitChar (n % 16)

def escapeChar (c : Char) : Text :=
  if c = '"' then ['\\', '"']
  else if c = '\\' then ['\\', '\\']
  else if c = '\n' then ['\\', 'n']
  else if c = '\r' then ['\\', 'r']
  else if c = '\t' then ['\\', 't']
  else if c = '\x08' then ['\\', 'b']
  else if c = '\x0c' then ['\\', 'f']
  else if c.toNat < 0x20 then ['\\', 'u', '0', '0', hexDigit (c.toNat / 16), hexDigit c.toNat]
  else [c]

def escape (s : Text) : Text := s.flatMap escapeChar

def quote (s : Text) : Text := '"' :: (escape s ++ ['"'])

mutual

/-- The value on one line, without blanks. -/
def compact : Json → Text
  | null => "null".toList
  | bool true => "true".toList
  | bool false => "false".toList
  | number spelling => spelling
  | string s => quote s
  | array items => '[' :: (Text.join [','] (compactItems items) ++ [']'])
  | object fields => '\x7b' :: (Text.join [','] (compactFields fields) ++ ['\x7d'])

def compactItems : List Json → List Text
  | [] => []
  | item :: items => compact item :: compactItems items

def compactFields : List (Text × Json) → List Text
  | [] => []
  | (key, value) :: fields => (quote key ++ ':' :: compact value) :: compactFields fields

end

def newline (level : Nat) : Text := '\n' :: List.replicate (2 * level) ' '

/-- Brackets around items on lines of their own; nothing stands between the brackets of no items. -/
def block (left right : Char) (level : Nat) (items : List Text) : Text :=
  if items.isEmpty then [left, right]
  else left :: (newline (level + 1) ++ Text.join (',' :: newline (level + 1)) items
    ++ newline level ++ [right])

mutual

/-- The value with every item and field on a line of its own, below `level` others. -/
def pretty : (level : Nat) → Json → Text
  | _, null => "null".toList
  | _, bool true => "true".toList
  | _, bool false => "false".toList
  | _, number spelling => spelling
  | _, string s => quote s
  | level, array items => block '[' ']' level (prettyItems (level + 1) items)
  | level, object fields => block '\x7b' '\x7d' level (prettyFields (level + 1) fields)

def prettyItems : (level : Nat) → List Json → List Text
  | _, [] => []
  | level, item :: items => pretty level item :: prettyItems level items

def prettyFields : (level : Nat) → List (Text × Json) → List Text
  | _, [] => []
  | level, (key, value) :: fields =>
    (quote key ++ ':' :: ' ' :: pretty level value) :: prettyFields level fields

end

end Json
end Highlight
