import Highlight.Digit
import Highlight.Pattern.Blank
import Highlight.Pattern.Syntax

/-!
Escapes: how a text is written so that a pattern matches it literally, and what follows a backslash
in a pattern. Each reader takes the text behind what it has recognised and gives back the rest.
-/

namespace Highlight.Pattern

/-- The characters that mean something to a pattern outside or inside of a class. -/
def isMeta (c : Char) : Bool := c ∈ "\\.+*?()|[]\x7b\x7d^$#&-~".toList

def escapeChar (c : Char) : Text := if isMeta c then ['\\', c] else [c]

def escape (text : Text) : Text := text.flatMap escapeChar

def isEscapable (c : Char) : Bool :=
  isMeta c || (c.toNat < 128 && !c.isAlphanum && c ≠ '<' && c ≠ '>')

def controlOf? : Char → Option Char
  | 'a' => some '\x07'
  | 'f' => some '\x0c'
  | 't' => some '\t'
  | 'n' => some '\n'
  | 'r' => some '\r'
  | 'v' => some '\x0b'
  | _ => none

def assertionOf? : Char → Option Assertion
  | 'A' => some .textStart
  | 'z' => some .textEnd
  | 'B' => some .notBoundary
  | '<' => some .wordStart
  | '>' => some .wordEnd
  | _ => none

/-- Takes exactly `count` characters, passing over blanks between them. -/
def takeFixed? (verbose : Bool) : (count : Nat) → Text → Option (Text × Text)
  | 0, text => some ([], text)
  | _ + 1, [] => none
  | count + 1, c :: text =>
    (takeFixed? verbose count (if count = 0 then text else skip verbose text)).map
      fun (taken, rest) => (c :: taken, rest)

/-- What follows `\x`, `\u` or `\U`: a code point in braces, or `count` digits. -/
def readHex (verbose : Bool) (count : Nat) (text : Text) : Except Fault (Atom × Text) :=
  match skip verbose text with
  | '\x7b' :: text =>
    match braced? verbose text with
    | some (digits, rest) =>
      match if digits.isEmpty then none else (number? 16 digits).bind charOf? with
      | some c => .ok (.literal c false, rest)
      | none => .error .badEscape
    | none => .error .badEscape
  | text =>
    match takeFixed? verbose count text with
    | some (digits, rest) =>
      match (number? 16 digits).bind charOf? with
      | some c => .ok (.literal c (count = 2), rest)
      | none => .error .badEscape
    | none => .error .badEscape

def cutAt? (mark : Text) : Text → Option (Text × Text)
  | [] => none
  | c :: text =>
    match Text.after? mark (c :: text) with
    | some rest => some ([], rest)
    | none => (cutAt? mark text).map fun (front, rest) => (c :: front, rest)

/-- A property in braces; `!=`, `:` and `=`, in this order, mark a value. -/
def Property.ofText (text : Text) : Property :=
  match ((cutAt? "!=".toList text).or (cutAt? [':'] text)).or (cutAt? ['='] text) with
  | some (name, value) => .valued name value
  | none => .named text

def readProperty (verbose negated : Bool) (text : Text) : Except Fault (Atom × Text) :=
  match skip verbose text with
  | [] => .error .badEscape
  | c :: text =>
    if c = '\x7b' then
      match braced? verbose text with
      | some (inner, rest) => .ok (.property negated (.ofText inner), rest)
      | none => .error .badEscape
    else if c = '\\' then .error .badEscape
    else .ok (.property negated (.named [c]), text)

def boundaryOf? (name : Text) : Option Assertion :=
  if name = "start".toList then some .wordStart
  else if name = "end".toList then some .wordEnd
  else if name = "start-half".toList then some .wordStartHalf
  else if name = "end-half".toList then some .wordEndHalf
  else none

/-- What follows `\b`: a kind of boundary in braces, unless the braces hold a count. -/
def readBoundary (verbose : Bool) : Text → Except Fault (Atom × Text)
  | '\x7b' :: text =>
    match skip verbose text with
    | [] => .error .badBoundary
    | c :: _ =>
      if c.isAlpha || c = '-' then
        match braced? verbose text with
        | some (name, rest) =>
          match boundaryOf? name with
          | some kind => .ok (.assertion kind, rest)
          | none => .error .badBoundary
        | none => .error .badBoundary
      else .ok (.assertion .boundary, '\x7b' :: text)
  | text => .ok (.assertion .boundary, text)

/-- What follows a backslash. -/
def readEscape (verbose : Bool) : Text → Except Fault (Atom × Text)
  | [] => .error .badEscape
  | c :: text =>
    if c = 'x' then readHex verbose 2 text
    else if c = 'u' then readHex verbose 4 text
    else if c = 'U' then readHex verbose 8 text
    else if c = 'p' then readProperty verbose false text
    else if c = 'P' then readProperty verbose true text
    else if c = 'b' then readBoundary verbose text
    else if isEscapable c then .ok (.literal c false, text)
    else
      match Shorthand.ofLetter? c, controlOf? c, assertionOf? c with
      | some kind, _, _ => .ok (.shorthand c.isUpper kind, text)
      | none, some control, _ => .ok (.literal control false, text)
      | none, none, some kind => .ok (.assertion kind, text)
      | none, none, none => .error .badEscape

theorem length_of_takeFixed? {verbose : Bool} {count : Nat} {text taken rest : Text}
    (h : takeFixed? verbose count text = some (taken, rest)) : rest.length ≤ text.length := by
  induction count generalizing text taken with
  | zero =>
    simp only [takeFixed?, Option.some.injEq, Prod.mk.injEq] at h
    simp [h.2]
  | succ count ih =>
    cases text with
    | nil => simp [takeFixed?] at h
    | cons c text =>
      obtain ⟨⟨t, r⟩, hr, h⟩ := Option.map_eq_some_iff.1 h
      simp only [Prod.mk.injEq] at h
      obtain ⟨-, rfl⟩ := h
      have hle := ih hr
      have := length_skip_le verbose text
      simp only [List.length_cons]
      split at hle <;> omega

theorem length_of_readHex {verbose : Bool} {count : Nat} {text rest : Text} {a : Atom}
    (h : readHex verbose count text = .ok (a, rest)) : rest.length ≤ text.length := by
  have hskip := length_skip_le verbose text
  unfold readHex at h
  split at h
  · next inner hinner =>
    rw [hinner] at hskip
    split at h
    · next hbraced =>
      have := length_of_braced? hbraced
      split at h
      · cases h
        simp only [List.length_cons] at hskip
        omega
      · cases h
    · cases h
  · split at h
    · next htake =>
      have := length_of_takeFixed? htake
      split at h
      · cases h
        omega
      · cases h
    · cases h

theorem length_of_readProperty {verbose negated : Bool} {text rest : Text} {a : Atom}
    (h : readProperty verbose negated text = .ok (a, rest)) : rest.length ≤ text.length := by
  have hskip := length_skip_le verbose text
  unfold readProperty at h
  split at h
  · cases h
  · next c inner hinner =>
    rw [hinner] at hskip
    simp only [List.length_cons] at hskip
    split at h
    · split at h
      · next hbraced =>
        have := length_of_braced? hbraced
        cases h
        omega
      · cases h
    · split at h
      · cases h
      · cases h
        omega

theorem length_of_readBoundary {verbose : Bool} {text rest : Text} {a : Atom}
    (h : readBoundary verbose text = .ok (a, rest)) : rest.length ≤ text.length := by
  unfold readBoundary at h
  split at h
  · split at h
    · cases h
    · split at h
      · split at h
        · next hbraced =>
          have := length_of_braced? hbraced
          split at h
          · cases h
            simp only [List.length_cons]
            omega
          · cases h
        · cases h
      · cases h
        exact Nat.le_refl _
  · cases h
    exact Nat.le_refl _

theorem length_of_readEscape {verbose : Bool} {text rest : Text} {a : Atom}
    (h : readEscape verbose text = .ok (a, rest)) : rest.length < text.length := by
  cases text with
  | nil => cases h
  | cons c text =>
    refine Nat.lt_succ_of_le ?_
    simp only [readEscape] at h
    split at h
    · exact length_of_readHex h
    split at h
    · exact length_of_readHex h
    split at h
    · exact length_of_readHex h
    split at h
    · exact length_of_readProperty h
    split at h
    · exact length_of_readProperty h
    split at h
    · exact length_of_readBoundary h
    split at h
    · cases h
      exact Nat.le_refl _
    split at h <;> cases h <;> exact Nat.le_refl _

end Highlight.Pattern
