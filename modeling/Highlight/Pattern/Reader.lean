import Highlight.Pattern.Automaton
import Highlight.Pattern.Class
import Highlight.Pattern.Header
import Highlight.Pattern.Resolve

/-!
Reading a pattern. The reader keeps a stack of the groups that are open; one step reads one part,
opens a group or closes one, and `run` steps through the whole text.
-/

namespace Highlight.Pattern

/-- The alternatives of a group as far as they are read, latest first: whole branches, and the parts
of the branch that is being read. -/
structure Row where
  branches : List Node
  parts : List Node

structure OpenGroup where
  kind : GroupKind
  outer : Row
  verbose : Bool

structure State where
  groups : List OpenGroup
  row : Row
  verbose : Bool
  captures : Nat
  names : List Text

namespace Row

def empty : Row := ⟨[], []⟩

def push (row : Row) (node : Node) : Row := { row with parts := node :: row.parts }

def alternate (row : Row) : Row := ⟨Node.ofParts row.parts.reverse :: row.branches, []⟩

def close (row : Row) : Node := Node.ofBranches row.alternate.branches.reverse

def repeatLast (row : Row) (greedy : Bool) (least : Nat) (most : Option Nat) : Except Fault Row :=
  match row.parts with
  | [] | .empty :: _ | .flags _ :: _ => .error .missingOperand
  | part :: parts => .ok { row with parts := .repetition part greedy least most :: parts }

end Row

inductive Symbol
  | openGroup
  | closeGroup
  | alternate
  | openClass
  | repeated (least : Nat) (most : Option Nat)
  | counted
  | escape
  | atom (a : Atom)

def Symbol.ofChar (c : Char) : Symbol :=
  if c = '(' then .openGroup
  else if c = ')' then .closeGroup
  else if c = '|' then .alternate
  else if c = '[' then .openClass
  else if c = '?' then .repeated 0 (some 1)
  else if c = '*' then .repeated 0 none
  else if c = '+' then .repeated 1 none
  else if c = '\x7b' then .counted
  else if c = '\\' then .escape
  else if c = '.' then .atom .dot
  else if c = '^' then .atom (.assertion .lineStart)
  else if c = '$' then .atom (.assertion .lineEnd)
  else .atom (.literal c false)

/-- A question mark right behind a repetition belongs to it and makes it lazy. -/
def dropLazy : Text → Text
  | '?' :: text => text
  | text => text

namespace State

def initial : State := ⟨[], .empty, false, 0, []⟩

def push (state : State) (node : Node) : State := { state with row := state.row.push node }

def enter (state : State) (kind : GroupKind) : State :=
  { state with
    groups := ⟨kind, state.row, state.verbose⟩ :: state.groups
    row := .empty
    verbose := (kind.flags.setting .verbose).getD state.verbose }

/-- Takes up what an opening parenthesis begins. Captures are numbered as they open. -/
def openGroup (state : State) : Header → Except Fault State
  | .flags set =>
    .ok { state.push (.flags set) with verbose := (set.setting .verbose).getD state.verbose }
  | .plain flags => .ok (state.enter (.plain flags))
  | .unnamed =>
    .ok { state.enter (.capture (state.captures + 1) none) with captures := state.captures + 1 }
  | .named name =>
    if name ∈ state.names then .error .duplicateGroupName
    else
      .ok { state.enter (.capture (state.captures + 1) (some name)) with
        captures := state.captures + 1
        names := name :: state.names }

def closeGroup (state : State) : Except Fault State :=
  match state.groups with
  | [] => .error .unopenedGroup
  | group :: groups =>
    .ok { state with
      groups := groups
      row := group.outer.push (.group group.kind state.row.close)
      verbose := group.verbose }

def closed (state : State) (text : Text) : Except Fault (State × Text) := do
  return (← state.closeGroup, text)

def readGroup (state : State) (text : Text) : Except Fault (State × Text) := do
  let (header, rest) ← readHeader state.verbose text
  return (← state.openGroup header, rest)

def readBracketed (state : State) (text : Text) : Except Fault (State × Text) := do
  let (negated, set, rest) ← readClass state.verbose text
  return (state.push (.bracketed negated set), rest)

def readEscaped (state : State) (text : Text) : Except Fault (State × Text) := do
  let (a, rest) ← readEscape state.verbose text
  return (state.push (.atom a), rest)

def repeated (state : State) (least : Nat) (most : Option Nat) (text : Text) :
    Except Fault (State × Text) := do
  let greedy := text.head? ≠ some '?'
  return ({ state with row := ← state.row.repeatLast greedy least most }, dropLazy text)

def readCounted (state : State) (text : Text) : Except Fault (State × Text) :=
  match braced? state.verbose text with
  | none => .error .badCount
  | some (inner, rest) =>
    match bounds? inner with
    | none => .error .badCount
    | some (least, most) => state.repeated least most (skip state.verbose rest)

def step (state : State) : Text → Except Fault (State × Text)
  | [] => .error .unclosedGroup
  | c :: text =>
    match Symbol.ofChar c with
    | .openGroup => state.readGroup text
    | .closeGroup => state.closed text
    | .alternate => .ok ({ state with row := state.row.alternate }, text)
    | .openClass => state.readBracketed text
    | .repeated least most => state.repeated least most text
    | .counted => state.readCounted text
    | .escape => state.readEscaped text
    | .atom a => .ok (state.push (.atom a), text)

def finish (state : State) : Except Fault Node :=
  match state.groups with
  | [] => .ok state.row.close
  | _ :: _ => .error .unclosedGroup

end State

theorem length_dropLazy_le (text : Text) : (dropLazy text).length ≤ text.length := by
  unfold dropLazy
  split <;> simp

namespace State

variable {state state' : State} {text rest : Text}

theorem length_of_closed (h : state.closed text = .ok (state', rest)) :
    rest.length ≤ text.length := by
  simp only [closed, bind, Except.bind] at h
  split at h <;> cases h
  exact Nat.le_refl _

theorem length_of_readGroup (h : state.readGroup text = .ok (state', rest)) :
    rest.length ≤ text.length := by
  simp only [readGroup, bind, Except.bind] at h
  split at h
  · cases h
  · next hheader =>
    have hle := length_of_readHeader hheader
    split at h <;> cases h
    exact hle

theorem length_of_readBracketed (h : state.readBracketed text = .ok (state', rest)) :
    rest.length ≤ text.length := by
  simp only [readBracketed, bind, Except.bind] at h
  split at h
  · cases h
  · next hclass =>
    cases h
    exact Nat.le_of_lt (length_of_readClass hclass)

theorem length_of_readEscaped (h : state.readEscaped text = .ok (state', rest)) :
    rest.length ≤ text.length := by
  simp only [readEscaped, bind, Except.bind] at h
  split at h
  · cases h
  · next hescape =>
    cases h
    exact Nat.le_of_lt (length_of_readEscape hescape)

theorem length_of_repeated {least : Nat} {most : Option Nat}
    (h : state.repeated least most text = .ok (state', rest)) : rest.length ≤ text.length := by
  simp only [repeated, bind, Except.bind] at h
  split at h <;> cases h
  exact length_dropLazy_le text

theorem length_of_readCounted (h : state.readCounted text = .ok (state', rest)) :
    rest.length ≤ text.length := by
  unfold readCounted at h
  split at h
  · cases h
  · next inner after hbraced =>
    have hlt := length_of_braced? hbraced
    have hskip := length_skip_le state.verbose after
    split at h
    · cases h
    · have hle := length_of_repeated h
      omega

theorem length_of_step (h : state.step text = .ok (state', rest)) : rest.length < text.length := by
  cases text with
  | nil => cases h
  | cons c text =>
    refine Nat.lt_succ_of_le ?_
    unfold step at h
    cases hsymbol : Symbol.ofChar c with
    | openGroup => exact length_of_readGroup (by simpa only [hsymbol] using h)
    | closeGroup => exact length_of_closed (by simpa only [hsymbol] using h)
    | openClass => exact length_of_readBracketed (by simpa only [hsymbol] using h)
    | repeated least most => exact length_of_repeated (by simpa only [hsymbol] using h)
    | counted => exact length_of_readCounted (by simpa only [hsymbol] using h)
    | escape => exact length_of_readEscaped (by simpa only [hsymbol] using h)
    | alternate | atom a =>
      simp only [hsymbol] at h
      cases h
      exact Nat.le_refl _

end State

def run (state : State) (text : Text) : Except Fault Node :=
  if (skip state.verbose text).isEmpty then state.finish
  else
    match _h : state.step (skip state.verbose text) with
    | .error fault => .error fault
    | .ok (next, rest) => run next rest
termination_by text.length
decreasing_by
  exact Nat.lt_of_lt_of_le (State.length_of_step (by assumption))
    (length_skip_le state.verbose text)

def depthLimit : Nat := 250

/-- Reads a whole pattern: its grammar, its depth, and what its flags allow. -/
def read (text : Text) : Except Fault Node := do
  let node ← run .initial text
  if node.depth > depthLimit then .error .tooDeep
  else if (node.unicodeAfter? true).isNone then .error .notAllowed
  else return node

/-- The number of capture groups in a fragment, read as the body of a plain group. -/
def countGroups (fragment : Text) : Except Fault Nat := do
  let node ← read ("(?:".toList ++ fragment ++ [')'])
  if (node.matcher {}).1.isTooLarge then .error .tooLarge else return node.captures

end Highlight.Pattern
