import Highlight.Proofs.Pattern.ClassReads
import Highlight.Proofs.Pattern.HeaderLookahead
import Highlight.Proofs.Pattern.Steps

/-!
Patterns in any surroundings. `Reads` says what a text adds to the row that it stands in, whatever
has been read before it and whatever follows; it is composed along the text, so that the tree of a
pattern that is put together from parts can be written down.
-/

namespace Highlight.Pattern

/-- A state after `count` further groups, with the row that `build` makes of its own. -/
def State.grown (state : State) (count : Nat) (build : Nat → Row → Row) : State :=
  { state with
    row := build state.captures state.row
    captures := state.captures + count }

def State.capturing (state : State) : State :=
  { state.enter (.capture (state.captures + 1) none) with captures := state.captures + 1 }

def State.leaving (state : State) (group : OpenGroup) (groups : List OpenGroup) : State :=
  { state with
    groups := groups
    row := group.outer.push (.group group.kind state.row.close)
    verbose := group.verbose }

/-- A text that has `count` groups and adds to a row what `build` says, behind so many captures as
there are ahead of it. -/
def Reads (text : Text) (count : Nat) (build : Nat → Row → Row) : Prop :=
  ∀ (state : State) (rest : Text), state.verbose = false → rest.head? ≠ some '?' →
    run state (text ++ rest) = run (state.grown count build) rest

def Node.literal (c : Char) : Node := .atom (.literal c false)

def Row.pushAll (row : Row) (nodes : List Node) : Row := nodes.foldl Row.push row

theorem Row.pushAll_eq (row : Row) (nodes : List Node) :
    row.pushAll nodes = ⟨row.branches, nodes.reverse ++ row.parts⟩ := by
  induction nodes generalizing row with
  | nil => rfl
  | cons node nodes ih =>
      rw [pushAll, List.foldl_cons, ← pushAll, ih]
      simp [push]

theorem Row.pushAll_append (row : Row) (front back : List Node) :
    row.pushAll (front ++ back) = (row.pushAll front).pushAll back := List.foldl_append

variable {state next : State} {text text' rest : Text} {count count' : Nat}
  {build build' : Nat → Row → Row} {c : Char} {a : Atom}

theorem run_of_takes (hskip : skip state.verbose text = text) (h : state.Takes text next rest) :
    run state text = run next rest := by
  apply run_of_step
  rw [hskip]
  exact State.step_of_takes h

theorem skip_plain (hverbose : state.verbose = false) (text : Text) :
    skip state.verbose text = text := by
  rw [hverbose]
  rfl

theorem run_openCapture (hverbose : state.verbose = false) (hhead : text.head? ≠ some '?') :
    run state ('(' :: text) = run state.capturing text := by
  have hheader : readHeader state.verbose text = .ok (.unnamed, text) := by
    rw [hverbose]
    exact readHeader_unnamed hhead
  exact run_of_takes (skip_plain hverbose _) (.group rfl hheader rfl)

theorem run_openGroup (hverbose : state.verbose = false) (text : Text) :
    run state ("(?:".toList ++ text) = run (state.enter (.plain [])) text := by
  have hheader : readHeader state.verbose ('?' :: ':' :: text) = .ok (.plain [], text) := by
    rw [hverbose]
    rfl
  exact run_of_takes (skip_plain hverbose _) (.group rfl hheader rfl)

theorem run_closeGroup {group : OpenGroup} {groups : List OpenGroup}
    (hgroups : state.groups = group :: groups) :
    run state (')' :: text) = run (state.leaving group groups) text := by
  have hclose : state.closeGroup = .ok (state.leaving group groups) := by
    simp only [State.closeGroup, hgroups]
    rfl
  have hskip : skip state.verbose (')' :: text) = ')' :: text := by cases state.verbose <;> rfl
  exact run_of_takes hskip (.close rfl hclose)

theorem ofChar_of_not_isMeta (hc : ¬isMeta c) : Symbol.ofChar c = .atom (.literal c false) := by
  have hne {d : Char} (hd : isMeta d) : c ≠ d := fun heq => hc (heq ▸ hd)
  rw [Symbol.ofChar]
  repeat rw [if_neg (hne (by decide))]

namespace Reads

theorem nil : Reads [] 0 fun _ row => row := fun _ _ _ _ => rfl

theorem congr (h : Reads text count build) (heq : ∀ n row, build n row = build' n row) :
    Reads text count build' := by
  intro state rest hverbose hrest
  rw [h state rest hverbose hrest]
  simp only [State.grown, heq]

theorem append (h : Reads text count build) (h' : Reads text' count' build')
    (hhead : text'.head? ≠ some '?') :
    Reads (text ++ text') (count + count') fun n row => build' (n + count) (build n row) := by
  intro state rest hverbose hrest
  have hhead' : (text' ++ rest).head? ≠ some '?' := by
    cases text' with
    | nil => exact hrest
    | cons c text' => exact hhead
  rw [List.append_assoc, h state _ hverbose hhead', h' (state.grown _ _) rest hverbose hrest]
  simp only [State.grown, Nat.add_assoc]

theorem atom (hc : Symbol.ofChar c = .atom a) : Reads [c] 0 fun _ row => row.push (.atom a) :=
  fun _ _ hverbose _ => run_of_takes (skip_plain hverbose _) (.atom hc)

theorem escaped (h : ∀ rest, readEscape false (c :: rest) = .ok (a, rest)) :
    Reads ['\\', c] 0 fun _ row => row.push (.atom a) := by
  intro state rest hverbose _
  refine run_of_takes (skip_plain hverbose _) (.escape rfl ?_)
  rw [hverbose]
  exact h rest

theorem alternate : Reads ['|'] 0 fun _ => Row.alternate :=
  fun _ _ hverbose _ => run_of_takes (skip_plain hverbose _) (.alternate rfl)

theorem bracketed (negated : Bool) {items : List ClassSet} (h : ReadsItems text items)
    (hne : text ≠ []) (hhead : ∀ c ∈ text.head?, c ∉ ['^', '-', ']']) :
    Reads ('[' :: ((if negated then ['^'] else []) ++ (text ++ [']']))) 0 fun _ row =>
      row.push (.bracketed negated (.ofItems items)) := by
  intro state rest hverbose _
  refine run_of_takes (skip_plain hverbose _) (.bracketed rfl ?_)
  have hclass : readClass false ((if negated then ['^'] else []) ++ (text ++ ']' :: rest)) =
      .ok (negated, .ofItems items, rest) := readClass_of_items h hne hhead
  rw [hverbose, ← hclass]
  exact congrArg (readClass false) (by simp)

theorem repeated {least : Nat} {most : Option Nat} {node : Nat → Node}
    (h : Reads text count fun n row => row.push (node n))
    (hc : Symbol.ofChar c = .repeated least most) (hquestion : c ≠ '?')
    (hnode : ∀ n row, (Row.push row (node n)).repeatLast true least most =
      .ok (row.push (.repetition (node n) true least most))) :
    Reads (text ++ [c]) count fun n row => row.push (.repetition (node n) true least most) := by
  intro state rest hverbose hrest
  have hhead : ([c] ++ rest).head? ≠ some '?' := by simpa using hquestion
  rw [List.append_assoc, h state _ hverbose hhead]
  refine run_of_takes (skip_plain hverbose _) (.repeated hc ?_)
  exact State.repeated_eq_ok_iff.2
    ⟨true, _, by simpa using hrest, hnode _ _, rfl, (State.dropLazy_of_ne hrest).symm⟩

theorem star {node : Nat → Node} (h : Reads text count fun n row => row.push (node n))
    (hnode : ∀ n row, (Row.push row (node n)).repeatLast true 0 none =
      .ok (row.push (.repetition (node n) true 0 none))) :
    Reads (text ++ ['*']) count fun n row => row.push (.repetition (node n) true 0 none) :=
  repeated h rfl (by decide) hnode

theorem capture (h : Reads text count build) (hhead : text.head? ≠ some '?') :
    Reads ('(' :: (text ++ [')'])) (count + 1) fun n row =>
      row.push (.group (.capture (n + 1) none) (build (n + 1) .empty).close) := by
  intro state rest hverbose _
  have hhead' : (text ++ ')' :: rest).head? ≠ some '?' := by
    cases text with
    | nil => simp
    | cons c text => exact hhead
  calc run state ('(' :: (text ++ [')']) ++ rest)
      = run state.capturing (text ++ ')' :: rest) := by
        rw [List.cons_append, List.append_assoc]
        exact run_openCapture hverbose hhead'
    _ = run (state.capturing.grown count build) (')' :: rest) := h _ _ hverbose (by simp)
    _ = run (state.grown (count + 1) _) rest := by
        have hgroups : (state.capturing.grown count build).groups = state.capturing.groups := rfl
        rw [run_closeGroup hgroups]
        simp only [State.leaving, State.grown, State.capturing, State.enter, Nat.add_assoc,
          Nat.add_comm 1 count]

theorem group (h : Reads text count build) :
    Reads ("(?:".toList ++ text ++ [')']) count fun n row =>
      row.push (.group (.plain []) (build n .empty).close) := by
  intro state rest hverbose _
  calc run state ("(?:".toList ++ text ++ [')'] ++ rest)
      = run (state.enter (.plain [])) (text ++ ')' :: rest) := by
        rw [List.append_assoc, List.append_assoc]
        exact run_openGroup hverbose _
    _ = run ((state.enter (.plain [])).grown count build) (')' :: rest) :=
        h _ _ hverbose (by simp)
    _ = run (state.grown count _) rest := by
        have hgroups : ((state.enter (.plain [])).grown count build).groups =
            (state.enter (.plain [])).groups := rfl
        exact run_closeGroup hgroups

theorem optional (h : Reads text count build) :
    Reads ("(?:".toList ++ text ++ [')', '?']) count fun n row =>
      row.push (.repetition (.group (.plain []) (build n .empty).close) true 0 (some 1)) := by
  intro state rest hverbose hrest
  let group : State := state.grown count fun n row =>
    row.push (.group (.plain []) (build n .empty).close)
  calc run state ("(?:".toList ++ text ++ [')', '?'] ++ rest)
      = run (state.enter (.plain [])) (text ++ ')' :: '?' :: rest) := by
        rw [List.append_assoc, List.append_assoc]
        exact run_openGroup hverbose _
    _ = run ((state.enter (.plain [])).grown count build) (')' :: '?' :: rest) :=
        h _ _ hverbose (by simp)
    _ = run group ('?' :: rest) := by
        have hgroups : ((state.enter (.plain [])).grown count build).groups =
            (state.enter (.plain [])).groups := rfl
        exact run_closeGroup hgroups
    _ = run (state.grown count _) rest := by
        refine run_of_takes (skip_plain hverbose _) (.repeated rfl ?_)
        exact State.repeated_eq_ok_iff.2
          ⟨true, _, by simpa using hrest, rfl, rfl, (State.dropLazy_of_ne hrest).symm⟩

theorem escape (text : Text) :
    Reads (Pattern.escape text) 0 fun _ row => row.pushAll (text.map .literal) := by
  induction text with
  | nil => exact nil
  | cons c text ih =>
      have hhead : (Pattern.escape text).head? ≠ some '?' := head?_escape_ne rfl (by decide) text
      by_cases hc : isMeta c
      · rw [escape_cons_of_isMeta hc]
        exact append (escaped (readEscape_of_isMeta hc false)) ih hhead
      · rw [escape_cons_of_not_isMeta hc]
        exact append (atom (ofChar_of_not_isMeta hc)) ih hhead

end Reads

/-- In verbose mode an escaped text loses its blanks. -/
theorem run_escape_verbose (hverbose : state.verbose = true) (text : Text) :
    run state (escape text ++ rest) =
      run { state with row := state.row.pushAll ((text.filter (!isBlank ·)).map .literal) }
        rest := by
  induction text generalizing state with
  | nil => rfl
  | cons c text ih =>
      have hpushed : (state.push (.literal c)).verbose = true := hverbose
      by_cases hc : isMeta c
      · have hblank : isBlank c = false := isBlank_of_isMeta hc
        have hskip (inner : Text) : skip state.verbose ('\\' :: inner) = '\\' :: inner := by
          rw [hverbose]
          rfl
        rw [escape_cons_of_isMeta hc, List.filter_cons_of_pos (by simp [hblank])]
        exact (run_of_takes (hskip _) (.escape rfl (readEscape_of_isMeta hc _ _))).trans
          (ih hpushed)
      · rw [escape_cons_of_not_isMeta hc]
        by_cases hblank : isBlank c
        · have hskip : skip state.verbose (c :: (escape text ++ rest)) =
              skip state.verbose (escape text ++ rest) := by
            simp [hverbose, skip, skipFrom, hblank]
          rw [List.filter_cons_of_neg (by simp [hblank]), ← ih hverbose]
          exact run_congr hskip
        · have hhash : c ≠ '#' := fun heq => hc (heq ▸ rfl)
          have hskip : skip state.verbose (c :: (escape text ++ rest)) =
              c :: (escape text ++ rest) := by
            simp [hverbose, skip, skipFrom, hblank, hhash]
          rw [List.filter_cons_of_pos (by simp [hblank])]
          exact (run_of_takes hskip (.atom (ofChar_of_not_isMeta hc))).trans (ih hpushed)

end Highlight.Pattern
