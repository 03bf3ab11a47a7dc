import Highlight.Toml.Value

/-!
Settings files: lines with headers and pairs, and the table that they build. `read?` gives the
entries of that table, or nothing for a text that is not well formed or defines something twice.
-/

namespace Highlight.Toml

open Reader

inductive Statement
  | table (path : List Text) (name : Text)
  | next (path : List Text) (name : Text)
  | pair (path : List Text) (name : Text) (item : Item)

def statement : Reader (Option Statement) := do
  blanks
  match ← peek? with
  | none | some '#' | some '\n' | some '\r' =>
    lineEnd
    return none
  | some '[' =>
    if ← accept ['[', '['] then
      let (path, name) ← key
      expect [']', ']']
      lineEnd
      return some (.next path name)
    else
      expect ['[']
      let (path, name) ← key
      expect [']']
      lineEnd
      return some (.table path name)
  | some _ =>
    let (path, name, item) ← pair (value (nestingLimit - 1))
    lineEnd
    return some (.pair path name item)

def statements : Reader (List Statement) := do
  discard (accept ['\uFEFF'])
  let lines ← many do
    if ← isAtEnd then return none
    return some (← statement)
  return lines.filterMap id

/-- The entries built so far, and the path of the header above the next pair. -/
structure Progress where
  entries : Entries := []
  path : List Text := []

def Progress.extend (p : Progress) : Statement → Option Progress
  | .table path name =>
    (p.entries.change (·.openTable name) path).map (⟨·, path ++ [name]⟩)
  | .next path name =>
    (p.entries.change (·.openNext name) path).map (⟨·, path ++ [name]⟩)
  | .pair path name item =>
    (p.entries.change (·.define name item path true) p.path).map (⟨·, p.path⟩)

def read? (text : Text) : Option Entries := do
  let (statements, _) ← statements.run text
  return (← statements.foldlM Progress.extend {}).entries

end Highlight.Toml
