import Mathlib.Data.List.Forall2

/-!
What comes out of a computation that can fail, what comes first in a list, and what holds of all
that a closed list holds.
-/

namespace Highlight

theorem ok_of_toOption {ε α : Type} {outcome : Except ε α} {value : α}
    (h : outcome.toOption = some value) : outcome = .ok value := by
  cases outcome with
  | error fault => cases h
  | ok other => exact congrArg Except.ok (Option.some.inj h)

theorem map_eq_ok_iff {ε α β : Type} {outcome : Except ε α} {f : α → β} {y : β} :
    outcome.map f = .ok y ↔ ∃ x, outcome = .ok x ∧ f x = y := by
  cases outcome with
  | error fault => exact ⟨nofun, nofun⟩
  | ok x =>
      constructor
      · intro heq
        cases heq
        exact ⟨x, rfl, rfl⟩
      · intro hall
        obtain ⟨_, ⟨⟩, rfl⟩ := hall
        rfl

theorem bind_eq_ok_iff {ε α β : Type} {outcome : Except ε α} {next : α → Except ε β} {y : β} :
    outcome >>= next = .ok y ↔ ∃ x, outcome = .ok x ∧ next x = .ok y := by
  cases outcome with
  | error fault => exact ⟨nofun, nofun⟩
  | ok x =>
      constructor
      · intro h
        exact ⟨x, rfl, h⟩
      · intro hall
        obtain ⟨_, ⟨⟩, h⟩ := hall
        exact h

theorem bind_eq_error_iff {ε α β : Type} {outcome : Except ε α} {next : α → Except ε β} {e : ε} :
    outcome >>= next = .error e ↔
      outcome = .error e ∨ ∃ x, outcome = .ok x ∧ next x = .error e := by
  cases outcome with
  | error fault => simp [bind, Except.bind]
  | ok x => simp [bind, Except.bind]

theorem mapError_eq_error_iff {ε ε' α : Type} {outcome : Except ε α} {f : ε → ε'} {e : ε'} :
    outcome.mapError f = .error e ↔ ∃ cause, outcome = .error cause ∧ f cause = e := by
  cases outcome with
  | error fault =>
      constructor
      · intro h
        cases h
        exact ⟨fault, rfl, rfl⟩
      · intro hall
        obtain ⟨_, ⟨⟩, rfl⟩ := hall
        rfl
  | ok x => exact ⟨nofun, nofun⟩

theorem mapError_eq_ok_iff {ε ε' α : Type} {outcome : Except ε α} {f : ε → ε'} {x : α} :
    outcome.mapError f = .ok x ↔ outcome = .ok x := by
  cases outcome with
  | error fault => exact ⟨nofun, nofun⟩
  | ok y =>
      constructor
      all_goals
        intro h
        cases h
        rfl

theorem mapM_eq_ok_iff {ε α β : Type} {f : α → Except ε β} {xs : List α} {ys : List β} :
    xs.mapM f = .ok ys ↔ xs.map f = ys.map .ok := by
  induction xs generalizing ys with
  | nil => cases ys <;> simp [pure, Except.pure]
  | cons x xs ih =>
      simp only [List.mapM_cons, bind_eq_ok_iff, List.map_cons]
      constructor
      · rintro ⟨y, hy, rest, hrest, heq⟩
        cases heq
        rw [hy, ih.1 hrest, List.map_cons]
      · intro h
        cases ys with
        | nil => cases h
        | cons y ys =>
            obtain ⟨hy, hrest⟩ := List.cons.inj h
            exact ⟨y, hy, ys, ih.2 hrest, rfl⟩

theorem mapM_eq_ok_iff_forall₂ {ε α β : Type} {f : α → Except ε β} {xs : List α} {ys : List β} :
    xs.mapM f = .ok ys ↔ List.Forall₂ (fun x y => f x = .ok y) xs ys := by
  rw [mapM_eq_ok_iff, ← List.forall₂_eq_eq_eq, List.forall₂_map_left_iff,
    List.forall₂_map_right_iff]

theorem exists_mapM_eq_ok_iff {ε α β : Type} {f : α → Except ε β} {xs : List α} :
    (∃ ys, xs.mapM f = .ok ys) ↔ ∀ x ∈ xs, ∃ y, f x = .ok y := by
  simp only [mapM_eq_ok_iff]
  induction xs with
  | nil => exact ⟨fun _ => nofun, fun _ => ⟨[], rfl⟩⟩
  | cons x xs ih =>
      rw [List.forall_mem_cons, ← ih]
      constructor
      · rintro ⟨ys, h⟩
        obtain ⟨y, ys, rfl, hy, hys⟩ := List.map_eq_cons_iff.1 h.symm
        exact ⟨⟨y, hy.symm⟩, ys, hys.symm⟩
      · rintro ⟨⟨y, hy⟩, ys, hys⟩
        exact ⟨y :: ys, by rw [List.map_cons, List.map_cons, hy, hys]⟩

theorem mem_of_mapM_eq_ok {ε α β : Type} {f : α → Except ε β} {xs : List α} {ys : List β} {y : β}
    (h : xs.mapM f = .ok ys) : y ∈ ys ↔ ∃ x ∈ xs, f x = .ok y := by
  have hok : y ∈ ys ↔ (.ok y : Except ε β) ∈ ys.map .ok := by simp
  rw [hok, ← mapM_eq_ok_iff.1 h, List.mem_map]

/-- The first element of a list that has a property. -/
def FirstOf {α : Type} (p : α → Prop) (list : List α) (x : α) : Prop :=
  ∃ before after, list = before ++ x :: after ∧ p x ∧ ∀ y ∈ before, ¬p y

section First

variable {α : Type} {p : α → Prop} {list : List α} {a x : α}

theorem firstOf_nil : ¬FirstOf p [] x := by
  intro hall
  obtain ⟨before, after, h, -⟩ := hall
  cases before <;> cases h

theorem firstOf_cons : FirstOf p (a :: list) x ↔ p a ∧ x = a ∨ ¬p a ∧ FirstOf p list x := by
  constructor
  · intro hall
    obtain ⟨before, after, h, hx, hbefore⟩ := hall
    cases before with
    | nil =>
        cases h
        exact .inl ⟨hx, rfl⟩
    | cons y before =>
        cases h
        refine .inr ⟨hbefore _ List.mem_cons_self, before, after, rfl, hx, fun z hz => ?_⟩
        exact hbefore z (List.mem_cons_of_mem _ hz)
  · rintro (⟨ha, rfl⟩ | ⟨ha, before, after, rfl, hx, hbefore⟩)
    · exact ⟨[], list, rfl, ha, nofun⟩
    · refine ⟨a :: before, after, rfl, hx, fun y hy => ?_⟩
      rcases List.mem_cons.1 hy with rfl | hy
      · exact ha
      · exact hbefore y hy

theorem exists_firstOf (h : ∃ x ∈ list, p x) :
    ∃ x, FirstOf p list x := by
  induction list with
  | nil =>
      obtain ⟨x, hmem, -⟩ := h
      cases hmem
  | cons a list ih =>
      by_cases ha : p a
      · exact ⟨a, firstOf_cons.2 (.inl ⟨ha, rfl⟩)⟩
      · obtain ⟨x, hmem, hx⟩ := h
        rcases List.mem_cons.1 hmem with rfl | hmem
        · exact absurd hx ha
        · obtain ⟨first, hfirst⟩ := ih ⟨x, hmem, hx⟩
          exact ⟨first, firstOf_cons.2 (.inr ⟨ha, hfirst⟩)⟩

end First

theorem forall_mem_of_all {α : Type} {p : α → Prop} [DecidablePred p] {list : List α}
    (h : list.all (p ·) = true) : ∀ x ∈ list, p x :=
  fun x hx => of_decide_eq_true (List.all_eq_true.1 h x hx)

theorem forall_mem_of_all_option {α : Type} {p : α → Prop} [DecidablePred p] {option : Option α}
    (h : option.all (p ·) = true) : ∀ x ∈ option, p x := by
  rintro x ⟨⟩
  exact of_decide_eq_true h

end Highlight
