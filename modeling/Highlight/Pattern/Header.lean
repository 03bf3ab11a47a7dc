import Highlight.Pattern.Escape
import Highlight.Pattern.NameChar

/-!
Group headers and repetition counts: what follows an opening parenthesis up to the group's body, and
what a pair of braces says about how often something is repeated.
-/

namespace Highlight.Pattern

inductive Header
  | flags (set : Flags)
  | unnamed
  | named (name : Text)
  | plain (flags : Flags)
  deriving DecidableEq, Repr

/-- Flags up to the colon or parenthesis that ends them. A hyphen, at most one and never last,
switches the flags behind it off. -/
def readFlags : (on dangling : Bool) → Flags → Text → Except Fault (Flags × Char × Text)
  | _, _, _, [] => .error .badFlags
  | on, dangling, seen, c :: text =>
    if c = ':' || c = ')' then
      if dangling then .error .badFlags else .ok (seen, c, text)
    else if c = '-' then
      if on then readFlags false true seen text else .error .badFlags
    else
      match Flag.ofLetter? c with
      | none => .error .badFlags
      | some flag =>
        if seen.any (·.1 = flag) then .error .badFlags
        else readFlags on false (seen ++ [(flag, on)]) text

def takeName? : (atStart : Bool) → Text → Option (Text × Text)
  | _, [] => none
  | atStart, c :: text =>
    if c = '>' then if atStart then none else some ([], text)
    else if isNameChar atStart c then
      (takeName? false text).map fun (name, rest) => (c :: name, rest)
    else none

def isLookAround (text : Text) : Bool :=
  ["?=", "?!", "?<=", "?<!"].any fun mark => (Text.after? mark.toList text).isSome

def readHeader (verbose : Bool) (text : Text) : Except Fault (Header × Text) :=
  let text := skip verbose text
  if isLookAround text then .error .lookAround
  else
    match (Text.after? "?P<".toList text).or (Text.after? "?<".toList text) with
    | some inner =>
      match takeName? true inner with
      | some (name, rest) => .ok (.named name, rest)
      | none => .error .badGroupName
    | none =>
      match text with
      | '?' :: inner =>
        match readFlags true false [] inner with
        | .error fault => .error fault
        | .ok (set, c, rest) =>
          if c = ':' then .ok (.plain set, rest)
          else if set.isEmpty then .error .missingOperand
          else .ok (.flags set, rest)
      | text => .ok (.unnamed, text)

/-- A number of repetitions, between blanks; it has to fit into 32 bits. -/
def times? (text : Text) : Option Nat :=
  let digits := ((text.dropWhile isBlank).reverse.dropWhile isBlank).reverse
  if digits.isEmpty || !digits.all Char.isDigit then none
  else
    let n := digits.foldl (fun n c => 10 * n + (c.toNat - 48)) 0
    if n < Nat.pow 2 32 then some n else none

def bounds? (inner : Text) : Option (Nat × Option Nat) :=
  match cutAt? [','] inner with
  | none => (times? inner).map fun n => (n, some n)
  | some (least, []) => (times? least).map fun n => (n, none)
  | some (least, most) =>
    match times? least, times? most with
    | some n, some m => if n ≤ m then some (n, some m) else none
    | _, _ => none

theorem length_of_readFlags {on dangling : Bool} {seen set : Flags} {text rest : Text} {c : Char}
    (h : readFlags on dangling seen text = .ok (set, c, rest)) : rest.length ≤ text.length := by
  induction text generalizing on dangling seen with
  | nil => cases h
  | cons d text ih =>
    simp only [readFlags] at h
    repeat' split at h
    all_goals first
      | cases h
      | exact Nat.le_succ_of_le (ih h)
    simp

theorem length_of_takeName? {atStart : Bool} {text name rest : Text}
    (h : takeName? atStart text = some (name, rest)) : rest.length ≤ text.length := by
  induction text generalizing atStart name with
  | nil => cases h
  | cons c text ih =>
    simp only [takeName?] at h
    repeat' split at h
    · cases h
    · cases h
      simp
    · obtain ⟨⟨n, r⟩, hr, h⟩ := Option.map_eq_some_iff.1 h
      cases h
      exact Nat.le_succ_of_le (ih hr)
    · cases h

theorem length_of_readHeader {verbose : Bool} {text rest : Text} {header : Header}
    (h : readHeader verbose text = .ok (header, rest)) : rest.length ≤ text.length := by
  have hskip := length_skip_le verbose text
  simp only [readHeader] at h
  split at h
  · cases h
  split at h
  · next inner hinner =>
    have hle : inner.length ≤ (skip verbose text).length := by
      rcases Option.or_eq_some_iff.1 hinner with h1 | ⟨-, h1⟩ <;>
        rw [Text.after?_eq_some_iff.1 h1, List.length_append] <;> omega
    split at h
    · next hname =>
      have := length_of_takeName? hname
      cases h
      omega
    · cases h
  · split at h
    · next inner hinner =>
      rw [hinner, List.length_cons] at hskip
      split at h
      · cases h
      · next hflags =>
        have := length_of_readFlags hflags
        repeat' split at h
        all_goals cases h
        all_goals omega
    · cases h
      exact hskip

end Highlight.Pattern
