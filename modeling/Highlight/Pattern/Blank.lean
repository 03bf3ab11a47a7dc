import Highlight.Text

/-!
Blanks and comments. In verbose mode blanks do not count and `#` opens a comment to the end of its
line; `skip` passes over both, and `peek?` looks at the next character behind them.
-/

namespace Highlight.Pattern

def isBlank (c : Char) : Bool :=
  (9 ≤ c.toNat && c.toNat ≤ 13) || (0x2000 ≤ c.toNat && c.toNat ≤ 0x200a) ||
    c.toNat ∈ [0x20, 0x85, 0xa0, 0x1680, 0x2028, 0x2029, 0x202f, 0x205f, 0x3000]

/-- Passes over blanks and comments, starting inside of a comment or not. -/
def skipFrom : (comment : Bool) → Text → Text
  | _, [] => []
  | true, c :: text => skipFrom (c ≠ '\n') text
  | false, c :: text =>
    if isBlank c then skipFrom false text
    else if c = '#' then skipFrom true text
    else c :: text

def skip (verbose : Bool) (text : Text) : Text := if verbose then skipFrom false text else text

/-- The next character after blanks and at most one `#`, which hides no line end here. -/
def peekFrom? : (comment : Bool) → Text → Option Char
  | _, [] => none
  | comment, c :: text =>
    if isBlank c then peekFrom? comment text
    else if !comment && c = '#' then peekFrom? true text
    else some c

def peek? (verbose : Bool) (text : Text) : Option Char :=
  if verbose then peekFrom? false text else text.head?

/-- What stands before the next closing brace, without blanks and comments in verbose mode, and what
follows the brace. -/
def bracedFrom? (verbose : Bool) : (comment : Bool) → Text → Option (Text × Text)
  | _, [] => none
  | true, c :: text => bracedFrom? verbose (c ≠ '\n') text
  | false, c :: text =>
    if verbose && isBlank c then bracedFrom? verbose false text
    else if verbose && c = '#' then bracedFrom? verbose true text
    else if c = '\x7d' then some ([], text)
    else (bracedFrom? verbose false text).map fun (inner, rest) => (c :: inner, rest)

def braced? (verbose : Bool) (text : Text) : Option (Text × Text) := bracedFrom? verbose false text

theorem length_skipFrom_le (comment : Bool) (text : Text) :
    (skipFrom comment text).length ≤ text.length := by
  fun_induction skipFrom comment text with
  | case1 | case5 => simp
  | case2 c text ih | case3 c text _ ih | case4 text _ ih =>
    exact Nat.le_trans ih (Nat.le_succ _)

theorem length_skip_le (verbose : Bool) (text : Text) :
    (skip verbose text).length ≤ text.length := by
  unfold skip
  split
  · exact length_skipFrom_le _ _
  · exact Nat.le_refl _

theorem length_of_bracedFrom? {verbose comment : Bool} {text inner rest : Text}
    (h : bracedFrom? verbose comment text = some (inner, rest)) : rest.length < text.length := by
  induction text generalizing comment inner with
  | nil => simp [bracedFrom?] at h
  | cons c text ih =>
    cases comment with
    | true => exact Nat.lt_succ_of_lt (ih h)
    | false =>
      unfold bracedFrom? at h
      split at h
      · exact Nat.lt_succ_of_lt (ih h)
      split at h
      · exact Nat.lt_succ_of_lt (ih h)
      split at h
      · simp only [Option.some.injEq, Prod.mk.injEq] at h
        simp [h.2]
      · obtain ⟨⟨i, r⟩, hr, h⟩ := Option.map_eq_some_iff.1 h
        simp only [Prod.mk.injEq] at h
        obtain ⟨-, rfl⟩ := h
        exact Nat.lt_succ_of_lt (ih hr)

theorem length_of_braced? {verbose : Bool} {text inner rest : Text}
    (h : braced? verbose text = some (inner, rest)) : rest.length < text.length :=
  length_of_bracedFrom? h

end Highlight.Pattern
