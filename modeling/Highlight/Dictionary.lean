import Highlight.Text

/-!
A finite map kept in ascending order of its keys. The order is part of the type, so that listing the
entries needs no sorting; `get?_insert` is the one fact that its users need.
-/

namespace Highlight

class KeyOrder (κ : Type) [LT κ] : Prop where
  trans {a b c : κ} : a < b → b < c → a < c
  connex {a b : κ} : ¬ a < b → a ≠ b → b < a

theorem KeyOrder.ofLinearOrder {κ : Type} [LT κ] [LE κ] [Std.IsLinearOrder κ]
    [Std.LawfulOrderLT κ] : KeyOrder κ :=
  ⟨Std.lt_trans, fun hlt hne => Std.lt_of_le_of_ne (Std.not_lt.1 hlt) (Ne.symm hne)⟩

instance : KeyOrder Nat := .ofLinearOrder

instance : KeyOrder Text := .ofLinearOrder

instance : KeyOrder (List Text) := .ofLinearOrder

/-- Entries in strictly ascending order of their keys. -/
structure Dictionary (κ : Type) [LT κ] (β : Type) where
  entries : List (κ × β)
  ascending : entries.Pairwise (fun a b => a.1 < b.1)

namespace Dictionary

variable {κ β : Type} [LT κ] [KeyOrder κ] [DecidableLT κ] [DecidableEq κ]

/-- Puts one entry into an ascending list, replacing the entry of the same key. -/
def put (key : κ) (value : β) : List (κ × β) → List (κ × β)
  | [] => [(key, value)]
  | (k, v) :: rest =>
    if key < k then (key, value) :: (k, v) :: rest
    else if key = k then (key, value) :: rest
    else (k, v) :: put key value rest

omit [KeyOrder κ] in
theorem fst_of_mem_put {key : κ} {value : β} {l : List (κ × β)} {e : κ × β}
    (h : e ∈ put key value l) : e.1 = key ∨ e ∈ l := by
  induction l with
  | nil => simp [put] at h; simp [h]
  | cons a l ih =>
    unfold put at h
    split at h
    · rcases List.mem_cons.1 h with rfl | h
      · exact .inl rfl
      · exact .inr h
    · split at h
      · rcases List.mem_cons.1 h with rfl | h
        · exact .inl rfl
        · exact .inr (List.mem_cons_of_mem _ h)
      · rcases List.mem_cons.1 h with rfl | h
        · exact .inr List.mem_cons_self
        · exact (ih h).imp id (List.mem_cons_of_mem _)

theorem pairwise_put {key : κ} {value : β} {l : List (κ × β)}
    (h : l.Pairwise (fun a b => a.1 < b.1)) :
    (put key value l).Pairwise (fun a b => a.1 < b.1) := by
  induction l with
  | nil => simp [put]
  | cons a l ih =>
    obtain ⟨ha, hl⟩ := List.pairwise_cons.1 h
    unfold put
    split
    · next hlt =>
      refine List.pairwise_cons.2 ⟨fun b hb => ?_, h⟩
      rcases List.mem_cons.1 hb with rfl | hb
      · exact hlt
      · exact KeyOrder.trans hlt (ha b hb)
    · split
      · next heq => exact List.pairwise_cons.2 ⟨fun b hb => heq ▸ ha b hb, hl⟩
      · next hnlt hne =>
        refine List.pairwise_cons.2 ⟨fun b hb => ?_, ih hl⟩
        rcases fst_of_mem_put hb with hkey | hb
        · rw [hkey]
          exact KeyOrder.connex hnlt hne
        · exact ha b hb

def empty : Dictionary κ β := ⟨[], .nil⟩

def get? (d : Dictionary κ β) (key : κ) : Option β :=
  (d.entries.find? (·.1 = key)).map (·.2)

/-- Stores a value under a key, in place of an earlier one. -/
def insert (d : Dictionary κ β) (key : κ) (value : β) : Dictionary κ β :=
  ⟨put key value d.entries, pairwise_put d.ascending⟩

def erase (d : Dictionary κ β) (key : κ) : Dictionary κ β :=
  ⟨d.entries.filter (·.1 ≠ key), d.ascending.filter _⟩

def keys (d : Dictionary κ β) : List κ := d.entries.map (·.1)

def contains (d : Dictionary κ β) (key : κ) : Bool := (d.get? key).isSome

def isEmpty (d : Dictionary κ β) : Bool := d.entries.isEmpty

@[simp]
theorem get?_insert (d : Dictionary κ β) (key other : κ) (value : β) :
    (d.insert key value).get? other = if key = other then some value else d.get? other := by
  unfold insert get?
  simp only
  generalize d.entries = l
  induction l with
  | nil =>
    by_cases h : key = other <;> simp [put, h]
  | cons a l ih =>
    unfold put
    split
    · by_cases h : key = other <;> simp [h]
    · split
      · next heq => by_cases h : key = other <;> simp [h, ← heq]
      · next hne =>
        by_cases h : a.1 = other
        · have : key ≠ other := h ▸ hne
          simp [h, this]
        · simp [h, ih]

omit [KeyOrder κ] [DecidableLT κ] in
@[simp]
theorem get?_erase (d : Dictionary κ β) (key other : κ) :
    (d.erase key).get? other = if key = other then none else d.get? other := by
  unfold erase get?
  simp only [List.find?_filter]
  split
  · next h =>
    subst h
    simp
  · next h =>
    congr 2
    funext e
    by_cases he : e.1 = other
    · simp [he, Ne.symm h]
    · simp [he]

end Dictionary
end Highlight
