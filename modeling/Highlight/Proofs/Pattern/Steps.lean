import Highlight.Pattern.Reader
import Highlight.Proofs.Pattern.Lookahead

/-!
The steps of the reader. `Takes` says what one step may do; a whole run is a chain of steps, each
taken behind the blanks and comments that stand ahead of it.
-/

namespace Highlight.Pattern

variable {state next : State} {text rest : Text}

namespace State

/-- What a step may do: one constructor for each kind of character that it can begin with. -/
inductive Takes (state : State) : Text → State → Text → Prop
  | group {c : Char} {inner rest : Text} {header : Header} {next : State}
      (hc : Symbol.ofChar c = .openGroup)
      (hheader : readHeader state.verbose inner = .ok (header, rest))
      (hopen : state.openGroup header = .ok next) : Takes state (c :: inner) next rest
  | close {c : Char} {rest : Text} {next : State} (hc : Symbol.ofChar c = .closeGroup)
      (hclose : state.closeGroup = .ok next) : Takes state (c :: rest) next rest
  | alternate {c : Char} {rest : Text} (hc : Symbol.ofChar c = .alternate) :
      Takes state (c :: rest) { state with row := state.row.alternate } rest
  | bracketed {c : Char} {inner rest : Text} {negated : Bool} {set : ClassSet}
      (hc : Symbol.ofChar c = .openClass)
      (hclass : readClass state.verbose inner = .ok (negated, set, rest)) :
      Takes state (c :: inner) (state.push (.bracketed negated set)) rest
  | repeated {c : Char} {inner rest : Text} {least : Nat} {most : Option Nat} {next : State}
      (hc : Symbol.ofChar c = .repeated least most)
      (hnext : state.repeated least most inner = .ok (next, rest)) :
      Takes state (c :: inner) next rest
  | counted {c : Char} {inner rest : Text} {next : State} (hc : Symbol.ofChar c = .counted)
      (hnext : state.readCounted inner = .ok (next, rest)) : Takes state (c :: inner) next rest
  | escape {c : Char} {inner rest : Text} {a : Atom} (hc : Symbol.ofChar c = .escape)
      (hescape : readEscape state.verbose inner = .ok (a, rest)) :
      Takes state (c :: inner) (state.push (.atom a)) rest
  | atom {c : Char} {rest : Text} {a : Atom} (hc : Symbol.ofChar c = .atom a) :
      Takes state (c :: rest) (state.push (.atom a)) rest

theorem takes_of_step (h : state.step text = .ok (next, rest)) : Takes state text next rest := by
  cases text with
  | nil => cases h
  | cons c text =>
      simp only [step] at h
      cases hc : Symbol.ofChar c with
      | openGroup =>
          simp only [hc, readGroup, bind, Except.bind] at h
          split at h
          · cases h
          · next hheader =>
              split at h <;> cases h
              next hopen => exact .group hc hheader hopen
      | closeGroup =>
          simp only [hc, closed, bind, Except.bind] at h
          split at h <;> cases h
          next hclose => exact .close hc hclose
      | alternate =>
          simp only [hc] at h
          cases h
          exact .alternate hc
      | openClass =>
          simp only [hc, readBracketed, bind, Except.bind] at h
          split at h <;> cases h
          next hclass => exact .bracketed hc hclass
      | repeated least most => exact .repeated hc (by simpa only [hc] using h)
      | counted => exact .counted hc (by simpa only [hc] using h)
      | escape =>
          simp only [hc, readEscaped, bind, Except.bind] at h
          split at h <;> cases h
          next hescape => exact .escape hc hescape
      | atom a =>
          simp only [hc] at h
          cases h
          exact .atom hc

theorem step_of_takes (h : Takes state text next rest) : state.step text = .ok (next, rest) := by
  cases h with
  | group hc hheader hopen =>
      simp only [step, hc, readGroup, hheader, hopen, bind, Except.bind]
      rfl
  | close hc hclose =>
      simp only [step, hc, closed, hclose, bind, Except.bind]
      rfl
  | alternate hc => simp only [step, hc]
  | bracketed hc hclass =>
      simp only [step, hc, readBracketed, hclass, bind, Except.bind]
      rfl
  | repeated hc hnext | counted hc hnext => simp only [step, hc, hnext]
  | escape hc hescape =>
      simp only [step, hc, readEscaped, hescape, bind, Except.bind]
      rfl
  | atom hc => simp only [step, hc]

theorem dropLazy_of_ne (h : text.head? ≠ some '?') : dropLazy text = text := by
  simp only [dropLazy]
  split
  · exact absurd rfl h
  · rfl

theorem repeated_eq_ok_iff {least : Nat} {most : Option Nat} :
    state.repeated least most text = .ok (next, rest) ↔
      ∃ greedy row, (greedy = true ↔ text.head? ≠ some '?') ∧
        state.row.repeatLast greedy least most = .ok row ∧
          next = { state with row := row } ∧ rest = dropLazy text := by
  simp only [State.repeated, bind, Except.bind]
  constructor
  · intro h
    split at h <;> cases h
    next row hrow => exact ⟨_, row, decide_eq_true_iff, hrow, rfl, rfl⟩
  · intro hall
    obtain ⟨greedy, row, hgreedy, hrow, rfl, rfl⟩ := hall
    obtain rfl : greedy = decide (text.head? ≠ some '?') := by
      rw [Bool.eq_iff_iff, hgreedy, decide_eq_true_iff]
    split
    · next heq => cases heq.symm.trans hrow
    · next heq =>
        cases heq.symm.trans hrow
        rfl

end State

theorem run_of_skip_eq_nil (h : skip state.verbose text = []) : run state text = state.finish := by
  rw [run, h]
  rfl

theorem run_of_step (h : state.step (skip state.verbose text) = .ok (next, rest)) :
    run state text = run next rest := by
  have hne : (skip state.verbose text).isEmpty = false := by
    cases hskip : skip state.verbose text with
    | nil =>
        rw [hskip] at h
        cases h
    | cons c inner => rfl
  rw [run, hne]
  simp only [Bool.false_eq_true, if_false]
  split
  · next heq => cases h.symm.trans heq
  · next heq =>
      cases h.symm.trans heq
      rfl

theorem run_of_fault {fault : Fault} (hne : skip state.verbose text ≠ [])
    (h : state.step (skip state.verbose text) = .error fault) : run state text = .error fault := by
  rw [run, List.isEmpty_eq_false_iff.2 hne]
  simp only [Bool.false_eq_true, if_false]
  split
  · next heq =>
      cases h.symm.trans heq
      rfl
  · next heq => cases h.symm.trans heq

/-- What a reading makes of a text depends on nothing but what is left of it behind blanks. -/
theorem run_congr {other : Text} (h : skip state.verbose text = skip state.verbose other) :
    run state text = run state other := by
  by_cases hnil : skip state.verbose text = []
  · rw [run_of_skip_eq_nil hnil, run_of_skip_eq_nil (h ▸ hnil)]
  · cases hstep : state.step (skip state.verbose text) with
    | error fault => rw [run_of_fault hnil hstep, run_of_fault (h ▸ hnil) (h ▸ hstep)]
    | ok result =>
        have hother := h ▸ hstep
        exact (run_of_step hstep).trans (run_of_step hother).symm

theorem run_skipFrom (hverbose : state.verbose = true) (text : Text) :
    run state (skipFrom false text) = run state text := by
  apply run_congr
  rw [hverbose]
  exact skipFrom_idem false text

theorem finish_of_open {group : OpenGroup} {groups : List OpenGroup}
    (h : state.groups = group :: groups) : state.finish = .error .unclosedGroup := by
  simp only [State.finish, h]

theorem finish_of_closed (h : state.groups = []) : state.finish = .ok state.row.close := by
  simp only [State.finish, h]

end Highlight.Pattern
