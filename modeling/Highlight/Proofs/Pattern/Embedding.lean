import Highlight.Proofs.Pattern.CaptureIndex
import Highlight.Proofs.Pattern.ClassLookahead
import Highlight.Proofs.Pattern.HeaderLookahead
import Highlight.Proofs.Pattern.Steps

/-!
A fragment inside of a longer pattern. A text that is a whole pattern by itself is read in the same
steps inside of groups that are already open, as long as what follows it is inert; only the numbers
of its captures grow. The one difference is a comment that is open at the end of the fragment: it
goes on in what follows.
-/

namespace Highlight.Pattern

def OpenGroup.shift (k : Nat) (group : OpenGroup) : OpenGroup :=
  { group with kind := group.kind.shift k, outer := group.outer.shift k }

namespace State

def within (k : Nat) (outer : List OpenGroup) (state : State) : State where
  groups := state.groups.map (OpenGroup.shift k) ++ outer
  row := state.row.shift k
  verbose := state.verbose
  captures := state.captures + k
  names := state.names

def outerIndex : List OpenGroup → Nat
  | [] => 0
  | group :: groups => max (max group.kind.index group.outer.lastIndex) (outerIndex groups)

/-- Captures are numbered without gaps: the number given out last is the highest one. -/
def Numbered (state : State) : Prop :=
  max state.row.lastIndex (outerIndex state.groups) = state.captures

variable {state next : State} {text rest tail : Text} {k : Nat} {outer : List OpenGroup}

theorem within_openGroup {header : Header} (h : state.openGroup header = .ok next) :
    (state.within k outer).openGroup header = .ok (next.within k outer) := by
  cases header with
  | flags set | plain set =>
      cases h
      rfl
  | unnamed =>
      cases h
      simp only [openGroup, enter, within, Nat.add_right_comm state.captures k 1]
      rfl
  | named name =>
      simp only [openGroup] at h
      split at h
      · cases h
      · next hnew =>
          cases h
          simp only [openGroup, enter, within, hnew, if_false, Nat.add_right_comm state.captures k 1]
          rfl

theorem within_closeGroup (h : state.closeGroup = .ok next) :
    (state.within k outer).closeGroup = .ok (next.within k outer) := by
  rw [closeGroup] at h
  split at h
  · cases h
  · next group groups hgroups =>
      cases h
      simp only [closeGroup, within, hgroups, List.map_cons, List.cons_append, Row.shift_push,
        Node.shift, Row.shift_close, OpenGroup.shift]

theorem within_repeated {least : Nat} {most : Option Nat}
    (h : state.repeated least most text = .ok (next, rest)) :
    (state.within k outer).repeated least most text = .ok (next.within k outer, rest) := by
  simp only [repeated, bind, Except.bind] at h
  split at h
  · cases h
  · next row hrow =>
      cases h
      simp only [repeated, within, Row.shift_repeatLast hrow, bind, Except.bind]
      rfl

theorem within_readCounted (h : state.readCounted text = .ok (next, rest)) :
    (state.within k outer).readCounted text = .ok (next.within k outer, rest) := by
  rw [readCounted] at h
  split at h
  · cases h
  · next inner after hbraced =>
      split at h
      · cases h
      · next hbounds =>
          rw [readCounted]
          rw [show (state.within k outer).verbose = state.verbose from rfl, hbraced]
          simp only [hbounds]
          exact within_repeated h

/-- One step is the same inside of other groups. -/
theorem step_within (h : state.step text = .ok (next, rest)) :
    (state.within k outer).step text = .ok (next.within k outer, rest) := by
  apply step_of_takes
  cases takes_of_step h with
  | group hc hheader hopen => exact .group hc hheader (within_openGroup hopen)
  | close hc hclose => exact .close hc (within_closeGroup hclose)
  | alternate hc =>
      have heq : State.within k outer { state with row := state.row.alternate } =
          { state.within k outer with row := (state.within k outer).row.alternate } := by
        simp only [within, Row.shift_alternate]
      rw [heq]
      exact .alternate hc
  | bracketed hc hclass => exact .bracketed hc hclass
  | repeated hc hnext => exact .repeated hc (within_repeated hnext)
  | counted hc hnext => exact .counted hc (within_readCounted hnext)
  | escape hc hescape => exact .escape hc hescape
  | atom hc => exact .atom hc

theorem numbered_initial : initial.Numbered := rfl

theorem Numbered.push {node : Node} (h : state.Numbered) (hnode : node.lastIndex = 0) :
    (state.push node).Numbered := by
  have heq := state.row.lastIndex_push node
  simp only [Numbered, State.push] at h ⊢
  omega

theorem Numbered.openGroup {header : Header} (h : state.Numbered)
    (hopen : state.openGroup header = .ok next) : next.Numbered := by
  have hempty : Row.empty.lastIndex = 0 := rfl
  cases header with
  | flags set =>
      cases hopen
      exact h.push rfl
  | plain set =>
      cases hopen
      simp only [Numbered, enter, outerIndex, hempty, GroupKind.index] at h ⊢
      omega
  | unnamed =>
      cases hopen
      simp only [Numbered, enter, outerIndex, hempty, GroupKind.index] at h ⊢
      omega
  | named name =>
      simp only [State.openGroup] at hopen
      split at hopen <;> cases hopen
      simp only [Numbered, enter, outerIndex, hempty, GroupKind.index] at h ⊢
      omega

theorem Numbered.closeGroup (h : state.Numbered) (hclose : state.closeGroup = .ok next) :
    next.Numbered := by
  rw [State.closeGroup] at hclose
  split at hclose
  · cases hclose
  · next group groups hgroups =>
      cases hclose
      simp only [Numbered, hgroups, outerIndex, Row.lastIndex_push, Node.lastIndex,
        Row.lastIndex_close] at h ⊢
      omega

theorem Numbered.repeated {least : Nat} {most : Option Nat} (h : state.Numbered)
    (hnext : state.repeated least most text = .ok (next, rest)) : next.Numbered := by
  simp only [State.repeated, bind, Except.bind] at hnext
  split at hnext <;> cases hnext
  next hrow =>
    simpa only [Numbered, Row.lastIndex_repeatLast hrow] using h

theorem Numbered.step (h : state.Numbered) (hstep : state.step text = .ok (next, rest)) :
    next.Numbered := by
  cases takes_of_step hstep with
  | group hc hheader hopen => exact h.openGroup hopen
  | close hc hclose => exact h.closeGroup hclose
  | alternate hc => simpa only [Numbered, Row.lastIndex_alternate] using h
  | bracketed hc hclass => exact h.push rfl
  | repeated hc hnext => exact h.repeated hnext
  | counted hc hnext =>
      rw [readCounted] at hnext
      split at hnext
      · cases hnext
      · split at hnext
        · cases hnext
        · exact h.repeated hnext
  | escape hc hescape => exact h.push rfl
  | atom hc => exact h.push rfl

theorem repeated_append {least : Nat} {most : Option Nat} (htail : Inert tail)
    (h : state.repeated least most text = .ok (next, rest)) :
    state.repeated least most (text ++ tail) = .ok (next, rest ++ tail) := by
  obtain ⟨greedy, row, hgreedy, hrow, rfl, rfl⟩ := repeated_eq_ok_iff.1 h
  refine repeated_eq_ok_iff.2 ⟨greedy, row, ?_, hrow, rfl, ?_⟩
  · cases text with
    | nil => simpa [htail.head?_ne_question] using hgreedy
    | cons c text => exact hgreedy
  · cases text with
    | nil => exact (dropLazy_of_ne htail.head?_ne_question).symm
    | cons c text =>
        by_cases hc : c = '?'
        · subst hc
          rfl
        · rw [dropLazy_of_ne, dropLazy_of_ne] <;> simpa using hc

theorem repeated_of_nil {least : Nat} {most : Option Nat} (hlazy : text.head? ≠ some '?')
    (h : state.repeated least most [] = .ok (next, rest)) :
    rest = [] ∧ state.repeated least most text = .ok (next, text) := by
  obtain ⟨greedy, row, hgreedy, hrow, rfl, rfl⟩ := repeated_eq_ok_iff.1 h
  refine ⟨rfl, repeated_eq_ok_iff.2 ⟨greedy, row, ?_, hrow, rfl, (dropLazy_of_ne hlazy).symm⟩⟩
  simpa [hlazy] using hgreedy

theorem verbose_repeated {least : Nat} {most : Option Nat}
    (h : state.repeated least most text = .ok (next, rest)) : next.verbose = state.verbose := by
  simp only [State.repeated, bind, Except.bind] at h
  split at h <;> cases h
  rfl

/-- How a step goes when a text follows: it leaves that text behind its own rest; or it ends in an
open comment and leaves what comes after the comment; or it opens a group that its own text never
closes. -/
inductive Prolonged (state : State) (text : Text) (next : State) (rest : Text) : Prop
  | rest (h : ∀ tail, Inert tail → state.step (text ++ tail) = .ok (next, rest ++ tail))
  | comment (hrest : rest = []) (hverbose : next.verbose = true)
      (h : ∀ tail, Inert tail → state.step (text ++ tail) = .ok (next, skipFrom true tail))
  | unclosed (hrest : rest = []) (hgroups : next.groups ≠ [])

theorem prolonged_of_counted {c : Char} (hc : Symbol.ofChar c = .counted)
    (h : state.readCounted text = .ok (next, rest)) : Prolonged state (c :: text) next rest := by
  have hstep {tail next rest} (h : state.readCounted (text ++ tail) = .ok (next, rest)) :
      state.step (c :: text ++ tail) = .ok (next, rest) := step_of_takes (.counted hc h)
  rw [readCounted] at h
  split at h
  · cases h
  next inner after hbraced =>
  split at h
  · cases h
  next least most hbounds =>
  have hlong (tail : Text) : state.readCounted (text ++ tail) =
      state.repeated least most (skip state.verbose (after ++ tail)) := by
    simp only [readCounted, braced?_append tail hbraced, hbounds]
  by_cases hskip : skip state.verbose after = []
  · have hlazy : ([] : Text).head? ≠ some '?' := by simp
    rw [hskip] at h
    obtain hblank | ⟨hverbose, hcomment⟩ := skip_append_of_eq_nil hskip
    · refine .rest fun tail htail => hstep ?_
      obtain ⟨rfl, hnext⟩ := repeated_of_nil htail.head?_ne_question h
      rw [hlong, hblank, htail.skip]
      exact hnext
    · refine .comment (repeated_of_nil hlazy h).1 ?_ fun tail htail => hstep ?_
      · rw [verbose_repeated h, hverbose]
      · rw [hlong, hcomment]
        exact (repeated_of_nil htail.lazy h).2
  · refine .rest fun tail htail => hstep ?_
    rw [hlong, skip_append tail hskip]
    exact repeated_append htail h

theorem prolonged_of_step (h : state.step text = .ok (next, rest)) :
    Prolonged state text next rest := by
  cases takes_of_step h with
  | @group c inner rest header next hc hheader hopen =>
      by_cases hskip : skip state.verbose inner = []
      · have hunnamed : readHeader state.verbose inner = .ok (.unnamed, skip state.verbose inner) :=
          readHeader_unnamed (by rw [hskip]; simp)
        rw [hskip] at hunnamed
        cases hheader.symm.trans hunnamed
        cases hopen
        exact .unclosed rfl (List.cons_ne_nil _ _)
      · exact .rest fun tail htail =>
          step_of_takes (.group hc (readHeader_append hskip hheader) hopen)
  | close hc hclose => exact .rest fun tail _ => step_of_takes (.close hc hclose)
  | alternate hc => exact .rest fun tail _ => step_of_takes (.alternate hc)
  | bracketed hc hclass =>
      exact .rest fun tail htail => step_of_takes (.bracketed hc (readClass_append htail hclass))
  | repeated hc hnext =>
      exact .rest fun tail htail => step_of_takes (.repeated hc (repeated_append htail hnext))
  | counted hc hnext => exact prolonged_of_counted hc hnext
  | escape hc hescape =>
      exact .rest fun tail htail => step_of_takes (.escape hc (readEscape_append htail hescape))
  | atom hc => exact .rest fun tail _ => step_of_takes (.atom hc)

end State

/-- A whole pattern is read in the same steps inside of open groups, up to a state in which it is
complete. From there what follows is read, or what follows the comment that was open. -/
theorem run_append {state : State} {text : Text} {node : Node} (h : run state text = .ok node) :
    ∃ last : State, last.groups = [] ∧ last.row.close = node ∧
      (state.Numbered → last.Numbered) ∧
      ((∀ k outer tail, Inert tail →
          run (state.within k outer) (text ++ tail) = run (last.within k outer) tail) ∨
        last.verbose = true ∧ ∀ k outer tail, Inert tail →
          run (state.within k outer) (text ++ tail) =
            run (last.within k outer) (skipFrom true tail)) := by
  fun_induction run state text with
  | case1 state text hempty =>
      have hnil := List.isEmpty_iff.1 hempty
      rw [State.finish] at h
      split at h <;> cases h
      next hgroups =>
        refine ⟨state, hgroups, rfl, id, ?_⟩
        obtain hblank | ⟨hverbose, hcomment⟩ := skip_append_of_eq_nil hnil
        · exact .inl fun k outer tail _ => run_congr (hblank tail)
        · refine .inr ⟨hverbose, fun k outer tail _ => run_congr ?_⟩
          rw [show (state.within k outer).verbose = true from hverbose, ← hverbose, hcomment,
            hverbose]
          exact (skipFrom_idem true tail).symm
  | case2 => cases h
  | case3 state text hempty next rest hstep ih =>
      have hne : skip state.verbose text ≠ [] := by simpa using hempty
      obtain ⟨last, hgroups, hclose, hnumbered, hrest⟩ := ih h
      have hlong {k outer tail after}
          (h : state.step (skip state.verbose text ++ tail) = .ok (next, after)) :
          run (state.within k outer) (text ++ tail) = run (next.within k outer) after := by
        apply run_of_step
        rw [show (state.within k outer).verbose = state.verbose from rfl, skip_append tail hne]
        exact State.step_within h
      cases State.prolonged_of_step hstep with
      | rest hprolonged =>
          refine ⟨last, hgroups, hclose, fun h => hnumbered (h.step hstep), ?_⟩
          obtain hplain | ⟨hverbose, hcomment⟩ := hrest
          · left
            intro k outer tail htail
            rw [hlong (hprolonged tail htail), hplain k outer tail htail]
          · refine .inr ⟨hverbose, ?_⟩
            intro k outer tail htail
            rw [hlong (hprolonged tail htail), hcomment k outer tail htail]
      | comment hnil hverbose hprolonged =>
          subst hnil
          rw [run_of_skip_eq_nil (skip_nil _)] at h
          rw [State.finish] at h
          split at h <;> cases h
          next hgroups =>
            refine ⟨next, hgroups, rfl, fun h => h.step hstep, .inr ⟨hverbose, ?_⟩⟩
            intro k outer tail htail
            exact hlong (hprolonged tail htail)
      | unclosed hnil hopen =>
          subst hnil
          rw [run_of_skip_eq_nil (skip_nil _)] at h
          rw [State.finish] at h
          split at h
          · next heq => exact absurd heq hopen
          · cases h

/-- A text that ends in a comment: a parenthesis behind it closes nothing. -/
def EndsInComment (text : Text) : Prop := ∃ node, run .initial (text ++ [')']) = .ok node

theorem inert_parenthesis : Inert [')'] where
  closing := ⟨[], rfl⟩
  colon := by
    intro name rest h
    cases h
  lazy := by
    intro h
    cases h

/-- A whole pattern inside of open groups: it leaves what follows to be read, or its comment. -/
theorem run_initial_append {text : Text} {node : Node} (h : run .initial text = .ok node) :
    ∃ last : State, last.groups = [] ∧ last.row.close = node ∧ last.captures = node.lastIndex ∧
      (¬EndsInComment text ∧ (∀ k outer tail, Inert tail →
          run (State.initial.within k outer) (text ++ tail) = run (last.within k outer) tail) ∨
        EndsInComment text ∧ last.verbose = true ∧ ∀ k outer tail, Inert tail →
          run (State.initial.within k outer) (text ++ tail) =
            run (last.within k outer) (skipFrom true tail)) := by
  obtain ⟨last, hgroups, hclose, hnumbered, hrest⟩ := run_append h
  have hcaptures : last.captures = node.lastIndex := by
    have hlast : max last.row.lastIndex (State.outerIndex last.groups) = last.captures :=
      hnumbered State.numbered_initial
    rw [hgroups] at hlast
    rw [← hclose, Row.lastIndex_close, ← hlast]
    exact Nat.max_eq_left (Nat.zero_le _)
  have hbare : (last.within 0 []).groups = [] := by simp [State.within, hgroups]
  have hinitial : State.initial.within 0 [] = .initial := rfl
  have hnil : skipFrom true [')'] = [] := rfl
  refine ⟨last, hgroups, hclose, hcaptures, hrest.imp ?_ ?_⟩
  · intro hplain
    refine ⟨?_, hplain⟩
    intro hall
    obtain ⟨other, hother⟩ := hall
    have hstep : (last.within 0 []).step [')'] = .error .unopenedGroup := by
      simp [State.step, Symbol.ofChar, State.closed, State.closeGroup, hbare, bind, Except.bind]
    have hskip : skip (last.within 0 []).verbose [')'] = [')'] := inert_parenthesis.skip _
    rw [← hinitial, hplain 0 [] _ inert_parenthesis, run_of_fault (by simp [hskip])
      (hskip.symm ▸ hstep)] at hother
    cases hother
  · intro hall
    obtain ⟨hverbose, hcomment⟩ := hall
    refine ⟨⟨(last.within 0 []).row.close, ?_⟩, hverbose, hcomment⟩
    rw [← hinitial, hcomment 0 [] _ inert_parenthesis, hnil, run_of_skip_eq_nil (skip_nil _),
      State.finish, hbare]

end Highlight.Pattern
