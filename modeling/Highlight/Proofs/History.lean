import Highlight.Proofs.Outcome

/-!
Histories of calls. A call that fails leaves a state as it is, so that any calls at all lead to a
state. What successful calls keep holds of every such state, and `successes` tells them from the
calls that failed.
-/

namespace Highlight

variable {σ α ε : Type} {step : σ → α → Except ε σ} {s s' : σ} {call : α} {calls : List α} {e : ε}

def afterCall (step : σ → α → Except ε σ) (s : σ) (call : α) : σ := (step s call).toOption.getD s

/-- The state behind calls in order, whatever becomes of each of them. -/
def afterCalls (step : σ → α → Except ε σ) (s : σ) (calls : List α) : σ :=
  calls.foldl (afterCall step) s

/-- The calls that succeed, in order. -/
def successes (step : σ → α → Except ε σ) : σ → List α → List α
  | _, [] => []
  | s, call :: calls =>
    if (step s call).isOk then call :: successes step (afterCall step s call) calls
    else successes step s calls

theorem afterCall_of_ok (h : step s call = .ok s') : afterCall step s call = s' := by
  rw [afterCall, h]
  rfl

theorem afterCall_of_error (h : step s call = .error e) : afterCall step s call = s := by
  rw [afterCall, h]
  rfl

theorem afterCalls_cons (step : σ → α → Except ε σ) (s : σ) (call : α) (calls : List α) :
    afterCalls step s (call :: calls) = afterCalls step (afterCall step s call) calls := rfl

theorem successes_of_ok (h : step s call = .ok s') :
    successes step s (call :: calls) = call :: successes step s' calls := by
  rw [successes, afterCall_of_ok h, h]
  rfl

theorem successes_of_error (h : step s call = .error e) :
    successes step s (call :: calls) = successes step s calls := by
  rw [successes, h]
  rfl

/-- What every successful call keeps holds in all states that calls lead to. -/
theorem afterCalls_induction {p : σ → Prop}
    (hstep : ∀ s call s', p s → step s call = .ok s' → p s') (hs : p s) (calls : List α) :
    p (afterCalls step s calls) := by
  induction calls generalizing s with
  | nil => exact hs
  | cons call calls ih =>
      rw [afterCalls_cons]
      cases h : step s call with
      | error e =>
          rw [afterCall_of_error h]
          exact ih hs
      | ok s' =>
          rw [afterCall_of_ok h]
          exact ih (hstep s call s' hs h)

theorem afterCalls_append (step : σ → α → Except ε σ) (s : σ) (calls more : List α) :
    afterCalls step s (calls ++ more) = afterCalls step (afterCalls step s calls) more :=
  List.foldl_append

theorem successes_sublist (step : σ → α → Except ε σ) (s : σ) (calls : List α) :
    (successes step s calls).Sublist calls := by
  induction calls generalizing s with
  | nil => exact .slnil
  | cons call calls ih =>
      cases h : step s call with
      | error e =>
          rw [successes_of_error h]
          exact (ih s).cons call
      | ok s' =>
          rw [successes_of_ok h]
          exact (ih s').cons_cons call

theorem successes_cons_eq_iff : successes step s (call :: calls) = call :: calls ↔
    ∃ s', step s call = .ok s' ∧ successes step s' calls = calls := by
  cases h : step s call with
  | error e =>
      rw [successes_of_error h]
      refine iff_of_false (fun hall => ?_) (by simp)
      have hlength := (successes_sublist step s calls).length_le
      rw [hall, List.length_cons] at hlength
      omega
  | ok s' => simp [successes_of_ok h]

theorem foldlM_eq_ok_iff : calls.foldlM step s = .ok s' ↔
    successes step s calls = calls ∧ afterCalls step s calls = s' := by
  induction calls generalizing s with
  | nil => simp [successes, afterCalls, pure, Except.pure]
  | cons call calls ih =>
      rw [List.foldlM_cons, bind_eq_ok_iff, successes_cons_eq_iff, afterCalls_cons]
      constructor
      · rintro ⟨next, hnext, hrest⟩
        obtain ⟨hall, hafter⟩ := ih.1 hrest
        exact ⟨⟨next, hnext, hall⟩, (afterCall_of_ok hnext).symm ▸ hafter⟩
      · rintro ⟨⟨next, hnext, hall⟩, hafter⟩
        rw [afterCall_of_ok hnext] at hafter
        exact ⟨next, hnext, ih.2 ⟨hall, hafter⟩⟩

theorem foldlM_eq_error_iff : calls.foldlM step s = .error e ↔
    ∃ before call after, calls = before ++ call :: after ∧
      successes step s before = before ∧ step (afterCalls step s before) call = .error e := by
  induction calls generalizing s with
  | nil => simp [pure, Except.pure]
  | cons first calls ih =>
      rw [List.foldlM_cons, bind_eq_error_iff]
      constructor
      · rintro (hfirst | ⟨next, hnext, hrest⟩)
        · exact ⟨[], first, calls, rfl, rfl, hfirst⟩
        · obtain ⟨before, call, after, rfl, hall, hcall⟩ := ih.1 hrest
          refine ⟨first :: before, call, after, rfl,
            successes_cons_eq_iff.2 ⟨next, hnext, hall⟩, ?_⟩
          rwa [afterCalls_cons, afterCall_of_ok hnext]
      · rintro ⟨before, call, after, heq, hall, hcall⟩
        cases before with
        | nil =>
            cases heq
            exact .inl hcall
        | cons other before =>
            cases heq
            obtain ⟨next, hnext, hall⟩ := successes_cons_eq_iff.1 hall
            rw [afterCalls_cons, afterCall_of_ok hnext] at hcall
            exact .inr ⟨next, hnext, ih.2 ⟨before, call, after, rfl, hall, hcall⟩⟩

end Highlight
