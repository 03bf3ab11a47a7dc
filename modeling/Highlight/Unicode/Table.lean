import Highlight.CharSet
import Highlight.Digit

/-!
Tables of character sets. An entry has names, a colon, and ranges of hexadecimal numbers: `41-5A`
for all from the first to the last, and `100-12E/2` for every second one of them.
-/

namespace Highlight.Unicode

/-- Entries with semicolons between them. -/
abbrev Table := String

def wordsOf (text : Text) : List Text :=
  (Text.split ' ' (text.map fun c => if c = '\n' then ' ' else c)).filter (!·.isEmpty)

def words (text : String) : List Text := wordsOf text.toList

def codePoint (digits : Text) : Nat := (number? 16 digits).getD 0

def rangesOf (word : Text) : List (Nat × Nat) :=
  match Text.split '-' word with
  | [first, last] =>
    match Text.split '/' last with
    | [last, step] =>
      let count := (codePoint last - codePoint first) / codePoint step + 1
      (List.range count).map fun i =>
        let n := codePoint first + i * codePoint step
        (n, n)
    | _ => [(codePoint first, codePoint last)]
  | _ => [(codePoint word, codePoint word)]

def codePoints (text : String) : CharSet := .ofRanges ((words text).flatMap rangesOf)

namespace Table

def entries (table : Table) : List Text := Text.split ';' table.toList

def names (entry : Text) : List Text := wordsOf (entry.takeWhile (· ≠ ':'))

def ranges (entry : Text) : List (Nat × Nat) :=
  (wordsOf ((entry.dropWhile (· ≠ ':')).tail)).flatMap rangesOf

def lookup? (table : Table) (name : Text) : Option Text :=
  (entries table).find? fun entry => name ∈ names entry

def find? (table : Table) (name : Text) : Option CharSet :=
  (lookup? table name).map fun entry => .ofRanges (ranges entry)

def collect (table : Table) (wanted : List Text) : CharSet :=
  .ofRanges (((entries table).filter fun entry => (names entry).any (· ∈ wanted)).flatMap ranges)

def all (table : Table) : CharSet := .ofRanges ((entries table).flatMap ranges)

end Table
end Highlight.Unicode
