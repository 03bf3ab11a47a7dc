import Highlight.Pattern.Escape

/-!
Bracketed classes. A class is read with a stack of the brackets and set operations that are still
open; `readClass` starts behind the first bracket and ends behind the one that closes it.
-/

namespace Highlight.Pattern

/-- What a class that is being read waits for: the end of a nested bracket, or the right side of a
set operation. Items are kept latest first. -/
inductive ClassFrame
  | bracket (outer : List ClassSet) (negated : Bool)
  | operation (op : SetOperator) (left : ClassSet)

structure ClassState where
  frames : List ClassFrame
  items : List ClassSet

def asciiClassTable : Unicode.Table := "
alnum: 30-39 41-5A 61-7A;
alpha: 41-5A 61-7A;
ascii: 0-7F;
blank: 9 20;
cntrl: 0-1F 7F;
digit: 30-39;
graph: 21-7E;
lower: 61-7A;
print: 20-7E;
punct: 21-2F 3A-40 5B-60 7B-7E;
space: 9-D 20;
upper: 41-5A;
word: 30-39 41-5A 5F 61-7A;
xdigit: 30-39 41-46 61-66
"

def asciiClass? (text : Text) : Option (Bool × CharSet × Text) :=
  match text with
  | ':' :: text =>
    let negated := text.head? = some '^'
    match cutAt? ":".toList (if negated then text.tail else text) with
    | some (name, ']' :: rest) =>
      (Unicode.Table.find? asciiClassTable name).map fun members => (negated, members, rest)
    | _ => none
  | _ => none

def takeHyphens (verbose : Bool) (text : Text) : List ClassSet × Text :=
  match _h : skip verbose text with
  | '-' :: rest =>
    let (hyphens, rest) := takeHyphens verbose rest
    (hyphens ++ [.atom (.literal '-' false)], rest)
  | rest => ([], rest)
termination_by text.length
decreasing_by
  have := length_skip_le verbose text
  simp_all only [List.length_cons]
  omega

/-- What follows the opening bracket of a class: a caret, hyphens, and a bracket that closes nothing
because it comes first. -/
def openClass (verbose : Bool) (text : Text) : Except Fault (Bool × List ClassSet × Text) :=
  let text := skip verbose text
  let negated := text.head? = some '^'
  match takeHyphens verbose (if negated then text.tail else text) with
  | (_, []) => .error .unclosedClass
  | ([], ']' :: rest) => .ok (negated, [.atom (.literal ']' false)], rest)
  | (hyphens, rest) => .ok (negated, hyphens, rest)

def readClassAtom (verbose : Bool) : Text → Except Fault (Atom × Text)
  | [] => .error .unclosedClass
  | c :: text => if c = '\\' then readEscape verbose text else .ok (.literal c false, text)

/-- An atom as an item of its own; a class holds no assertions. -/
def ClassSet.ofAtom : Atom → Except Fault ClassSet
  | .assertion _ => .error .badEscape
  | a => .ok (.atom a)

def ClassSet.ofRange : Atom → Atom → Except Fault ClassSet
  | .literal a x, .literal b y =>
    if a ≤ b then .ok (.range (.literal a x) (.literal b y)) else .error .badRange
  | _, _ => .error .badRange

/-- One item of a class: an atom, or two joined by a hyphen. -/
def readClassItem (verbose : Bool) (text : Text) : Except Fault (ClassSet × Text) := do
  let (first, rest) ← readClassAtom verbose text
  match skip verbose rest with
  | [] => .error .unclosedClass
  | c :: tail =>
    if c ≠ '-' || peek? verbose tail = some ']' || peek? verbose tail = some '-' then
      return (← ClassSet.ofAtom first, c :: tail)
    else
      let (last, rest) ← readClassAtom verbose (skip verbose tail)
      return (← ClassSet.ofRange first last, rest)

def ClassState.settle (state : ClassState) : ClassSet × List ClassFrame :=
  let set := ClassSet.ofItems state.items.reverse
  match state.frames with
  | .operation op left :: frames => (.binary op left set, frames)
  | frames => (set, frames)

def setOperator? : Text → Option (SetOperator × Text)
  | '&' :: '&' :: rest => some (.intersection, rest)
  | '-' :: '-' :: rest => some (.difference, rest)
  | '~' :: '~' :: rest => some (.symmetricDifference, rest)
  | _ => none

/-- A step inside of a class: more to read, or the whole class with its negation. -/
inductive ClassStep
  | more (state : ClassState)
  | done (negated : Bool) (set : ClassSet)

def stepClass (verbose : Bool) (state : ClassState) (text : Text) :
    Except Fault (ClassStep × Text) := do
  match text with
  | [] => .error .unclosedClass
  | '[' :: rest =>
    match asciiClass? rest with
    | some (negated, members, rest) =>
      return (.more { state with items := .ascii negated members :: state.items }, rest)
    | none =>
      let (negated, items, rest) ← openClass verbose rest
      return (.more ⟨.bracket state.items negated :: state.frames, items⟩, rest)
  | ']' :: rest =>
    match state.settle with
    | (set, [.bracket _ negated]) => return (.done negated set, rest)
    | (set, .bracket outer negated :: frames) =>
      return (.more ⟨frames, .bracketed negated set :: outer⟩, rest)
    | _ => .error .unclosedClass
  | text =>
    match setOperator? text with
    | some (op, rest) =>
      let (left, frames) := state.settle
      return (.more ⟨.operation op left :: frames, []⟩, rest)
    | none =>
      let (item, rest) ← readClassItem verbose text
      return (.more { state with items := item :: state.items }, rest)

theorem length_of_cutAt? {mark text front rest : Text} (h : cutAt? mark text = some (front, rest)) :
    rest.length ≤ text.length := by
  induction text generalizing front with
  | nil => simp [cutAt?] at h
  | cons c text ih =>
    unfold cutAt? at h
    split at h
    · next hafter =>
      simp only [Option.some.injEq, Prod.mk.injEq] at h
      rw [(Text.after?_eq_some_iff.1 hafter), ← h.2]
      simp
    · obtain ⟨⟨f, r⟩, hr, h⟩ := Option.map_eq_some_iff.1 h
      simp only [Prod.mk.injEq] at h
      obtain ⟨-, rfl⟩ := h
      exact Nat.le_succ_of_le (ih hr)

theorem length_of_asciiClass? {text rest : Text} {negated : Bool} {members : CharSet}
    (h : asciiClass? text = some (negated, members, rest)) : rest.length ≤ text.length := by
  unfold asciiClass? at h
  split at h
  · next text =>
    dsimp only at h
    split at h
    · next hcut =>
      have hle := length_of_cutAt? hcut
      have htail : (if text.head? = some '^' then text.tail else text).length ≤ text.length := by
        split
        · simp
        · exact Nat.le_refl _
      obtain ⟨members, -, h⟩ := Option.map_eq_some_iff.1 h
      cases h
      simp only [List.length_cons] at *
      omega
    · cases h
  · cases h

theorem length_takeHyphens_le (verbose : Bool) (text : Text) :
    (takeHyphens verbose text).2.length ≤ text.length := by
  fun_induction takeHyphens verbose text with
  | case1 text rest h hyphens rest' heq ih =>
    have := length_skip_le verbose text
    rw [heq] at ih
    simp only [h, List.length_cons] at this ih ⊢
    omega
  | case2 text _ => exact length_skip_le verbose text

theorem length_of_openClass {verbose : Bool} {text rest : Text} {negated : Bool}
    {items : List ClassSet} (h : openClass verbose text = .ok (negated, items, rest)) :
    rest.length ≤ text.length := by
  have hskip := length_skip_le verbose text
  have htake := length_takeHyphens_le verbose
    (if (skip verbose text).head? = some '^' then (skip verbose text).tail else skip verbose text)
  have htail : (if (skip verbose text).head? = some '^' then (skip verbose text).tail
      else skip verbose text).length ≤ (skip verbose text).length := by
    split
    · simp
    · exact Nat.le_refl _
  simp only [openClass] at h
  split at h
  · cases h
  · next hrest =>
    cases h
    simp only [hrest, List.length_cons] at htake
    omega
  · next hrest =>
    cases h
    simp only [hrest] at htake
    omega

theorem length_of_readClassAtom {verbose : Bool} {text rest : Text} {a : Atom}
    (h : readClassAtom verbose text = .ok (a, rest)) : rest.length < text.length := by
  unfold readClassAtom at h
  split at h
  · cases h
  · split at h
    · exact Nat.lt_succ_of_lt (length_of_readEscape h)
    · cases h
      simp

theorem length_of_readClassItem {verbose : Bool} {text rest : Text} {item : ClassSet}
    (h : readClassItem verbose text = .ok (item, rest)) : rest.length < text.length := by
  simp only [readClassItem, bind, Except.bind] at h
  split at h
  · cases h
  · next first hfirst =>
    have h1 := length_of_readClassAtom hfirst
    have h2 := length_skip_le verbose first.2
    split at h
    · cases h
    · next c tail hskip =>
      rw [hskip] at h2
      split at h
      · split at h
        · cases h
        · cases h
          omega
      · split at h
        · cases h
        · next last hlast =>
          have h3 := length_of_readClassAtom hlast
          have h4 := length_skip_le verbose tail
          split at h
          · cases h
          · cases h
            simp only [List.length_cons] at h2
            omega

theorem length_of_setOperator? {text rest : Text} {op : SetOperator}
    (h : setOperator? text = some (op, rest)) : rest.length < text.length := by
  unfold setOperator? at h
  split at h <;> simp_all only [Option.some.injEq, Prod.mk.injEq, reduceCtorEq] <;>
    simp only [← h.2, List.length_cons] <;> omega

theorem length_of_stepClass {verbose : Bool} {state : ClassState} {text rest : Text}
    {step : ClassStep} (h : stepClass verbose state text = .ok (step, rest)) :
    rest.length < text.length := by
  simp only [stepClass, bind, Except.bind] at h
  split at h
  · cases h
  · split at h
    · next hascii =>
      cases h
      exact Nat.lt_succ_of_le (length_of_asciiClass? hascii)
    · split at h
      · cases h
      · next hopen =>
        cases h
        exact Nat.lt_succ_of_le (length_of_openClass hopen)
  · split at h
    · cases h
      simp
    · cases h
      simp
    · cases h
  · split at h
    · next hop =>
      cases h
      exact length_of_setOperator? hop
    · split at h
      · cases h
      · next hitem =>
        cases h
        exact length_of_readClassItem hitem

def runClass (verbose : Bool) (state : ClassState) (text : Text) :
    Except Fault (Bool × ClassSet × Text) :=
  match _h : stepClass verbose state (skip verbose text) with
  | .error fault => .error fault
  | .ok (.done negated set, rest) => .ok (negated, set, rest)
  | .ok (.more state, rest) => runClass verbose state rest
termination_by text.length
decreasing_by
  exact Nat.lt_of_lt_of_le (length_of_stepClass (by assumption)) (length_skip_le verbose text)

/-- What follows the opening bracket of a class, up to its closing bracket. -/
def readClass (verbose : Bool) (text : Text) : Except Fault (Bool × ClassSet × Text) := do
  let (negated, items, rest) ← openClass verbose text
  runClass verbose ⟨[.bracket [] negated], items⟩ rest

theorem length_of_runClass {verbose : Bool} {state : ClassState} {text rest : Text}
    {negated : Bool} {set : ClassSet} (h : runClass verbose state text = .ok (negated, set, rest)) :
    rest.length < text.length := by
  fun_induction runClass verbose state text with
  | case1 => cases h
  | case2 state text negated' set' rest' hstep =>
    cases h
    exact Nat.lt_of_lt_of_le (length_of_stepClass hstep) (length_skip_le verbose text)
  | case3 state text state' rest' hstep ih =>
    have := length_of_stepClass hstep
    have := length_skip_le verbose text
    have := ih h
    omega

theorem length_of_readClass {verbose : Bool} {text rest : Text} {negated : Bool} {set : ClassSet}
    (h : readClass verbose text = .ok (negated, set, rest)) : rest.length < text.length := by
  simp only [readClass, bind, Except.bind] at h
  split at h
  · cases h
  · next hopen =>
    have := length_of_openClass hopen
    have := length_of_runClass h
    omega

end Highlight.Pattern
