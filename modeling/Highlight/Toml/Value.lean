import Highlight.Toml.Item
import Highlight.Toml.Quoted
import Highlight.Toml.Scalar

/-!
Keys and values. Arrays and inline tables nest, but not without end: `value` counts the levels that
are left.
-/

namespace Highlight.Toml

open Reader

def nestingLimit : Nat := 80

def isKeyChar (c : Char) : Bool := c.isAlphanum || c = '_' || c = '-'

def simpleKey : Reader Text := do
  match ← peek? with
  | some '"' => line .double
  | some '\'' => line .single
  | _ =>
    let key ← span isKeyChar
    guard !key.isEmpty
    return key

def keyStep : Reader Text := do
  blanks
  let key ← simpleKey
  blanks
  return key

def key : Reader (List Text × Text) := do
  let first ← keyStep
  let more ← many do
    if ← accept ['.'] then return some (← keyStep) else return none
  guard (more.length + 1 < nestingLimit)
  return ((first :: more).dropLast, more.getLast?.getD first)

def pair (item : Reader Item) : Reader (List Text × Text × Item) := do
  let (path, name) ← key
  expect ['=']
  blanks
  return (path, name, ← item)

/-- The items of an array up to its closing bracket; a comma may follow the last one. -/
def arrayItems (item : Reader Item) : Reader (List Item) := do
  space
  many do
    if ← accept [']'] then return none
    let read ← item
    space
    if ← accept [','] then space
    else guard ((← peek?) = some ']')
    return some read

/-- The entries of an inline table up to its closing brace, all on one line. -/
def inlineEntries (item : Reader Item) : Reader Entries := do
  blanks
  if ← accept ['\x7d'] then return []
  let first ← pair item
  blanks
  let more ← many do
    if ← accept ['\x7d'] then return none
    expect [',']
    let read ← pair item
    blanks
    return some read
  (first :: more).foldlM (fun entries (path, name, item) => entries.define name item path true) []

def value : (levels : Nat) → Reader Item
  | 0 => leaf
  | levels + 1 => do
    if ← accept ['['] then return .array (← arrayItems (value levels))
    if ← accept ['\x7b'] then return .inline (← inlineEntries (value levels))
    leaf
where
  leaf : Reader Item := do
    match ← peek? with
    | some '"' | some '\'' => return .string (← string)
    | _ =>
      scalar
      return .scalar

end Highlight.Toml
