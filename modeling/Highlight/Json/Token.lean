import Highlight.Digit
import Highlight.Json.Number

/-!
The tokens of JSON text. A string token keeps its spelling; `decode?` gives the text it stands for,
and refuses control characters, unknown escapes and halves of surrogate pairs.
-/

namespace Highlight.Json

inductive Token
  | openArray
  | closeArray
  | openObject
  | closeObject
  | comma
  | colon
  | null
  | bool (value : Bool)
  | number (n : Numeral)
  | string (spelling : Text)
  deriving DecidableEq, Repr

def isSpace (c : Char) : Bool := c = ' ' || c = '\n' || c = '\t' || c = '\r'

def unit? : Text → Option (Nat × Text)
  | a :: b :: c :: d :: text =>
    match digitValue? a, digitValue? b, digitValue? c, digitValue? d with
    | some a, some b, some c, some d => some (4096 * a + 256 * b + 16 * c + d, text)
    | _, _, _, _ => none
  | _ => none

/-- The character that a leading and a trailing unit stand for. -/
def surrogateChar (lead trail : Nat) : Char :=
  Char.ofNat (0x10000 + 1024 * (lead - 0xd800) + (trail - 0xdc00))

def unitChar? (text : Text) : Option (Char × Text) :=
  match unit? text with
  | none => none
  | some (unit, rest) =>
    if 0xd800 ≤ unit && unit < 0xdc00 then
      match rest with
      | '\\' :: 'u' :: rest =>
        match unit? rest with
        | some (trail, rest) =>
          if 0xdc00 ≤ trail && trail < 0xe000 then
            some (surrogateChar unit trail, rest)
          else none
        | none => none
      | _ => none
    else if 0xdc00 ≤ unit && unit < 0xe000 then none
    else some (Char.ofNat unit, rest)

/-- The character that an escape stands for; the text begins behind the backslash. -/
def escape? : Text → Option (Char × Text)
  | [] => none
  | c :: text =>
    if c = 'u' then unitChar? text
    else if c = '"' || c = '\\' || c = '/' then some (c, text)
    else if c = 'n' then some ('\n', text)
    else if c = 't' then some ('\t', text)
    else if c = 'r' then some ('\r', text)
    else if c = 'b' then some ('\x08', text)
    else if c = 'f' then some ('\x0c', text)
    else none

theorem length_of_unit? {text rest : Text} {unit : Nat} (h : unit? text = some (unit, rest)) :
    rest.length < text.length := by
  unfold unit? at h
  split at h
  · split at h <;> cases h
    simp only [List.length_cons]
    omega
  · cases h

theorem length_of_unitChar? {text rest : Text} {c : Char} (h : unitChar? text = some (c, rest)) :
    rest.length < text.length := by
  unfold unitChar? at h
  split at h
  · cases h
  · next hunit =>
    have h1 := length_of_unit? hunit
    split at h
    · split at h
      · split at h
        · next htrail =>
          have h2 := length_of_unit? htrail
          split at h
          · simp only [Option.some.injEq, Prod.mk.injEq] at h
            obtain ⟨-, rfl⟩ := h
            simp only [List.length_cons] at h1
            omega
          · cases h
        · cases h
      · cases h
    · split at h
      · cases h
      · simp only [Option.some.injEq, Prod.mk.injEq] at h
        exact h.2 ▸ h1

theorem length_of_escape? {text rest : Text} {c : Char} (h : escape? text = some (c, rest)) :
    rest.length < text.length := by
  cases text with
  | nil => cases h
  | cons d text =>
    simp only [escape?] at h
    split at h
    · exact Nat.lt_succ_of_lt (length_of_unitChar? h)
    iterate 6
      split at h
      · cases h
        exact Nat.lt_succ_self _
    cases h

def decode? : Text → Option Text
  | [] => some []
  | c :: text =>
    if c = '\\' then
      match _h : escape? text with
      | some (d, rest) => (decode? rest).map (d :: ·)
      | none => none
    else if c = '"' || c.toNat < 0x20 then none
    else (decode? text).map (c :: ·)
termination_by text => text.length
decreasing_by
  · exact Nat.lt_succ_of_lt (length_of_escape? (by assumption))
  · simp

def takeSpelling? : Text → Option (Text × Text)
  | [] => none
  | c :: text =>
    if c = '"' then some ([], text)
    else if c = '\\' then
      match text with
      | [] => none
      | d :: text => (takeSpelling? text).map fun (inner, rest) => (c :: d :: inner, rest)
    else (takeSpelling? text).map fun (inner, rest) => (c :: inner, rest)

namespace Token

def fixed : List (Text × Token) :=
  [("[".toList, openArray), ("]".toList, closeArray), ("\x7b".toList, openObject),
    ("\x7d".toList, closeObject), (",".toList, comma), (":".toList, colon),
    ("null".toList, null), ("true".toList, bool true), ("false".toList, bool false)]

def read? (text : Text) : Option (Token × Text) :=
  match text with
  | [] => none
  | c :: rest =>
    if c = '"' then
      match takeSpelling? rest with
      | some (spelling, rest) =>
        if (decode? spelling).isSome then some (string spelling, rest) else none
      | none => none
    else if c = '-' || c.isDigit then
      match Numeral.read? (c :: rest) with
      | some (n, rest) => if n.inRange then some (number n, rest) else none
      | none => none
    else
      fixed.findSome? fun (word, token) => (Text.after? word (c :: rest)).map (token, ·)

theorem length_of_takeSpelling? {text inner rest : Text}
    (h : takeSpelling? text = some (inner, rest)) : rest.length < text.length := by
  fun_induction takeSpelling? text generalizing inner with
  | case1 | case3 => cases h
  | case2 text =>
    cases h
    simp
  | case4 d text _ ih =>
    obtain ⟨⟨i, r⟩, hr, h⟩ := Option.map_eq_some_iff.1 h
    cases h
    exact Nat.lt_succ_of_lt (Nat.lt_succ_of_lt (ih hr))
  | case5 c text _ _ ih =>
    obtain ⟨⟨i, r⟩, hr, h⟩ := Option.map_eq_some_iff.1 h
    cases h
    exact Nat.lt_succ_of_lt (ih hr)

theorem length_of_read? {text rest : Text} {token : Token}
    (h : read? text = some (token, rest)) : rest.length < text.length := by
  cases text with
  | nil => cases h
  | cons c text =>
    simp only [read?] at h
    split at h
    · split at h
      · next hspelling =>
        have := length_of_takeSpelling? hspelling
        split at h <;> cases h
        exact Nat.lt_succ_of_lt this
      · cases h
    split at h
    · split at h
      · next hnumber =>
        have := Numeral.length_of_read? hnumber
        split at h <;> cases h
        exact this
      · cases h
    · obtain ⟨⟨word, t⟩, hmem, h⟩ := List.exists_of_findSome?_eq_some h
      obtain ⟨r, hr, h⟩ := Option.map_eq_some_iff.1 h
      cases h
      have hword : word ≠ [] := by
        rintro rfl
        revert hmem
        simp [fixed]
      have := List.length_pos_iff.2 hword
      rw [Text.after?_eq_some_iff.1 hr, List.length_append]
      exact Nat.lt_add_of_pos_left this

end Token

theorem length_dropWhile_le (p : Char → Bool) (text : Text) :
    (text.dropWhile p).length ≤ text.length := (List.dropWhile_sublist p).length_le

/-- The tokens of a text, if it holds nothing but tokens and space. -/
def tokens? (text : Text) : Option (List Token) :=
  if (text.dropWhile isSpace).isEmpty then some []
  else
    match _h : Token.read? (text.dropWhile isSpace) with
    | some (token, rest) => (tokens? rest).map (token :: ·)
    | none => none
termination_by text.length
decreasing_by
  exact Nat.lt_of_lt_of_le (Token.length_of_read? (by assumption)) (length_dropWhile_le _ _)

end Highlight.Json
