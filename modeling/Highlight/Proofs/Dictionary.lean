import Highlight.Dictionary
import Mathlib.Data.List.Sort

/-!
Dictionaries are determined by what is found in them, because their entries stand in one order only.
-/

namespace Highlight.Dictionary

variable {κ β : Type} [LT κ] [DecidableEq κ] [Std.Asymm (α := κ) (· < ·)]

theorem mem_entries_iff {d : Dictionary κ β} {entry : κ × β} :
    entry ∈ d.entries ↔ d.get? entry.1 = some entry.2 := by
  obtain ⟨entries, hascending⟩ := d
  constructor
  · intro h
    induction entries with
    | nil => cases h
    | cons first entries ih =>
        obtain ⟨hless, hrest⟩ := List.pairwise_cons.1 hascending
        rcases List.mem_cons.1 h with rfl | h
        · simp [get?]
        · have hne : first.1 ≠ entry.1 := fun heq => by
            have hlt := hless entry h
            rw [heq] at hlt
            exact Std.Irrefl.irrefl _ hlt
          have hfound := ih hrest h
          simpa [get?, hne] using hfound
  · intro h
    obtain ⟨found, hfound, hvalue⟩ := Option.map_eq_some_iff.1 h
    have hkey : found.1 = entry.1 := by simpa using List.find?_some hfound
    have hentry : found = entry := Prod.ext hkey hvalue
    exact hentry ▸ List.mem_of_find?_eq_some hfound

omit [Std.Asymm (α := κ) (· < ·)] in
theorem get?_eq_none_iff {d : Dictionary κ β} {key : κ} :
    d.get? key = none ↔ key ∉ d.keys := by
  rw [get?, keys, Option.map_eq_none_iff, List.find?_eq_none, List.mem_map, not_exists]
  refine forall_congr' fun entry => ?_
  rw [decide_eq_true_eq, not_and]

omit [Std.Asymm (α := κ) (· < ·)] in
theorem mem_keys_iff {d : Dictionary κ β} {key : κ} :
    key ∈ d.keys ↔ ∃ value, d.get? key = some value := by
  rw [← Option.ne_none_iff_exists', ne_eq, get?_eq_none_iff, not_not]

theorem eq_of_get?_eq {d d' : Dictionary κ β} (h : ∀ key, d.get? key = d'.get? key) : d = d' := by
  have hasymm : Std.Asymm (α := κ × β) (fun a b => a.1 < b.1) :=
    ⟨fun a b => Std.Asymm.asymm a.1 b.1⟩
  have hentries : d.entries = d'.entries :=
    d.ascending.eq_of_mem_iff d'.ascending fun entry => by
      rw [mem_entries_iff, mem_entries_iff, h]
  cases d
  cases hentries
  rfl

end Highlight.Dictionary
