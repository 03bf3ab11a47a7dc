import Highlight.CharSet.Bytes
import Highlight.Pattern.Matcher
import Std.Data.TreeMap

/-!
The size of the automaton that a matcher is compiled to. Its states are counted as they are made:
repetitions are written out, and a set of characters becomes an automaton on bytes that shares
states as far as a table of bounded size remembers them. Nothing is counted past `sizeLimit`, which
keeps the work within bounds.
-/

namespace Highlight.Pattern

/-- The number of states so far, and the bytes that they hold besides themselves. -/
structure Extent where
  states : Nat
  extra : Nat
  deriving DecidableEq, Repr

def stateSize : Nat := 32

def arcSize : Nat := 8

def branchSize : Nat := 4

def sizeLimit : Nat := 10 * 1024 * 1024

def Extent.size (e : Extent) : Nat := stateSize * e.states + e.extra

abbrev Build := StateT Extent Option

namespace Build

def grow (states extra : Nat) : Build Unit := do
  let e ← get
  let e : Extent := ⟨e.states + states, e.extra + extra⟩
  guard (e.size ≤ sizeLimit)
  set e

def state (extra : Nat) : Build Nat := do
  let e ← get
  grow 1 extra
  return e.states

/-- Leads on from the end of a part: a choice gets one more alternative, other states an arc that
they have room for. -/
def link (fromChoice : Bool) : Build Unit := if fromChoice then grow 0 branchSize else pure ()

def chain (part : Build Bool) : (choice : Bool) → Nat → Build Bool
  | choice, 0 => pure choice
  | choice, n + 1 => do
    let next ← part
    link choice
    chain part next n

def copies (part : Build Bool) : Nat → Build Bool
  | 0 => do
    grow 1 0
    return false
  | n + 1 => do chain part (← part) n

/-- Copies of a part of which each may be the last. -/
def optional (part : Build Bool) : (choice : Bool) → Nat → Build Bool
  | choice, 0 => pure choice
  | choice, n + 1 => do
    grow 1 (2 * branchSize)
    let next ← part
    link choice
    optional part next n

end Build

/-- What a table of states remembers: in each slot the key that came last, and its state. -/
abbrev Memory (κ : Type) := Std.TreeMap Nat (κ × Nat)

def slot (size : UInt64) (key : List Nat) : Nat :=
  (key.foldl (fun h n => (h ^^^ n.toUInt64) * 1099511628211) 14695981039346656037 % size).toNat

def ofKey {κ : Type} [DecidableEq κ] (slot : Nat) (key : κ) (extra : Nat) :
    StateT (Memory κ) Build Nat := do
  match (← get)[slot]? with
  | some (known, state) => if known = key then return state else make
  | none => make
where
  make : StateT (Memory κ) Build Nat := do
    let state ← Build.state extra
    modify (·.insert slot (key, state))
    return state

abbrev Arc := Nat × Nat × Nat

/-- The state for sequences of byte ranges in ascending order that all end in `target`. The states
behind it are made first. -/
def buildTree (target : Nat) : (depth : Nat) → List (List (Nat × Nat)) →
    StateT (Memory (List Arc)) Build Nat
  | 0, _ => pure target
  | depth + 1, sequences => do
    let arcs ← (sequences.splitBy fun a b => a.head? = b.head?).mapM fun group => do
      let tails := group.map List.tail
      let (first, last) := (group.head?.bind List.head?).getD (0, 0)
      if tails.all List.isEmpty then return (first, last, target)
      else return (first, last, ← buildTree target depth tails)
    ofKey (slot 10000 (arcs.flatMap fun (first, last, next) => [first, last, next])) arcs
      (arcSize * arcs.length)

def buildBackwards (target : Nat) : List (Nat × Nat) → StateT (Memory (Nat × Nat × Nat)) Build Unit
  | [] => pure ()
  | (first, last) :: rest => do
    let state ← ofKey (slot 1000 [target, first, last]) (target, first, last) 0
    buildBackwards state rest

def buildSet (backwards : Bool) (s : CharSet) : Build Unit := do
  if s.isAscii then Build.grow 2 (arcSize * s.ranges.length)
  else if backwards then
    Build.grow 1 0
    let target ← Build.state 0
    (s.byteRanges.forM fun sequence => do
      buildBackwards target sequence
      Build.grow 0 branchSize).run' ∅
  else
    let target ← Build.state 0
    discard ((buildTree target 4 s.byteRanges).run' ∅)

def bytesOf (t : Text) : List Nat := t.flatMap fun c => CharSet.encode c.toNat

/-- The parts of the rows of bytes that are left at a state of a tree. A finished row ends a part,
so that rows before and behind it are kept apart. -/
def partsOf : List (List Nat) → List (List (List Nat))
  | [] => [[]]
  | row :: rows =>
    match row, partsOf rows with
    | [], parts => [] :: parts
    | row, part :: parts => (row :: part) :: parts
    | row, [] => [[row]]

/-- Rows of which no more than one is finished before the first of the others. -/
def dropRepeated : List (List Nat) → List (List Nat)
  | [] :: rows => [] :: rows.dropWhile List.isEmpty
  | rows => rows

/-- What the states of a tree of byte rows take, as states and extra bytes. States at which nothing
follows are one and the same. -/
def treeExtent : (depth : Nat) → List (List Nat) → Extent
  | 0, _ => ⟨0, 0⟩
  | depth + 1, rows =>
    if rows.all List.isEmpty then ⟨0, 0⟩
    else
      let parts := partsOf (dropRepeated rows)
      let ends := parts.length - 1
      let parts := parts.map fun part => groups part
      let filled := parts.filter (!·.isEmpty)
      let arcs := (filled.filter (1 < ·.length)).map List.length
      let below := filled.flatten.map fun group => treeExtent depth (group.map List.tail)
      ⟨filled.length + 1 + (below.map Extent.states).foldl (· + ·) 0,
        arcSize * arcs.foldl (· + ·) 0 + branchSize * (filled.length + ends) +
          (below.map Extent.extra).foldl (· + ·) 0⟩
where
  /-- Rows that begin alike, together. -/
  groups (rows : List (List Nat)) : List (List (List Nat)) :=
    (rows.map List.head?).eraseDups.map fun byte => rows.filter (·.head? = byte)

namespace Matcher

def text? : Matcher → Option Text
  | text t => some t
  | _ => none

def buildTexts (backwards : Bool) (texts : List Text) : Build Unit := do
  let rows := texts.map fun t => if backwards then (bytesOf t).reverse else bytesOf t
  let extent := treeExtent ((rows.map List.length).foldl max 0 + 1) rows
  Build.grow (extent.states + 1) extent.extra

mutual

def build (backwards : Bool) : Matcher → Build Bool
  | empty | place _ => do
    Build.grow 1 0
    return false
  | text t => do
    Build.grow (bytesOf t).length 0
    return false
  | members s _ => do
    buildSet backwards s
    return false
  | capture _ body => do
    if backwards then body.build backwards
    else
      Build.grow 1 0
      let choice ← body.build backwards
      Build.grow 1 0
      Build.link choice
      return false
  | concat parts =>
    if backwards then buildPartsBackwards parts else buildParts false parts
  | alternation branches => do
    match branches.mapM text? with
    | some texts => buildTexts backwards texts
    | none => buildBranches backwards 0 branches
    return false
  | repetition _ 0 (some 1) body => do
    Build.grow 1 0
    let choice ← body.build backwards
    Build.grow 1 (2 * branchSize)
    Build.link choice
    return false
  | repetition _ 0 none body => do
    if body.consumes? = some true then
      Build.grow 1 0
      let choice ← body.build backwards
      Build.grow 0 branchSize
      Build.link choice
      return true
    else
      let choice ← body.build backwards
      Build.grow 3 (4 * branchSize)
      Build.link choice
      return false
  | repetition _ (least + 1) none body => do
    let choice ←
      if least = 0 then body.build backwards
      else
        let front ← Build.copies (body.build backwards) least
        let choice ← body.build backwards
        Build.link front
        pure choice
    Build.grow 1 branchSize
    Build.link choice
    return true
  | repetition _ least (some most) body => do
    let front ← Build.copies (body.build backwards) least
    if least = most then return front
    Build.grow 1 0
    let choice ← Build.optional (body.build backwards) front (most - least)
    Build.link choice
    return false

def buildParts (choice : Bool) : List Matcher → Build Bool
  | [] => pure choice
  | m :: ms => do
    let next ← m.build false
    Build.link choice
    buildParts next ms

def buildPartsBackwards : List Matcher → Build Bool
  | [] => pure false
  | m :: ms => do
    let choice ← buildPartsBackwards ms
    let next ← m.build true
    Build.link choice
    return next

def buildBranches (backwards : Bool) (index : Nat) : List Matcher → Build Unit
  | [] => pure ()
  | m :: ms => do
    let choice ← m.build backwards
    if index = 1 then Build.grow 2 0
    Build.grow 0 branchSize
    Build.link choice
    buildBranches backwards (index + 1) ms

end

/-- Makes the whole automaton for a direction. Unless a match has to begin where the text does, a
loop in front passes over what comes before. -/
def buildAll (backwards : Bool) (m : Matcher) : Build Unit := do
  if if backwards then m.endsAt .finish else m.beginsAt .start then Build.grow 1 0
  else Build.grow 3 (arcSize + 2 * branchSize)
  if !backwards then Build.grow 1 0
  let choice ← m.build backwards
  Build.grow (if backwards then 1 else 2) 0
  Build.link choice

def dictionarySize : Nat := 3000

/-- Whether an automaton for one of the two directions is too large. -/
def isTooLarge (m : Matcher) : Bool :=
  match m with
  | alternation branches =>
    if dictionarySize ≤ branches.length && (branches.all fun m => m.text?.isSome) then false
    else exceeds m
  | m => exceeds m
where
  exceeds (m : Matcher) : Bool :=
    ((buildAll false m).run ⟨0, 0⟩).isNone || ((buildAll true m).run ⟨0, 0⟩).isNone

end Matcher
end Highlight.Pattern
