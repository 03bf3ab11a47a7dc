import Highlight.Proofs.Template.Slots
import Highlight.Proofs.Tokenless
import Mathlib.Data.List.Pairwise
import Mathlib.Data.List.Sort

/-!
The cut of a text into slots and the text between them. What a search for quoted placeholders finds
from the left is said without the search, by the places at which placeholders stand; the slots are
what it finds, less the style tags, and nothing of the text is lost around them.
-/

namespace Highlight

/-- A quoted placeholder in a text, by the place of its opening quote. -/
structure Found where
  place : Nat
  name : Text

namespace Found

def stop (found : Found) : Nat := found.place + (TokenShape.quoted.spell found.name).length

def behind (count : Nat) (found : Found) : Found := ⟨count + found.place, found.name⟩

theorem place_lt_stop (found : Found) : found.place < found.stop := by
  have hlength : 0 < (TokenShape.quoted.spell found.name).length := Nat.succ_pos _
  rw [stop]
  omega

theorem stop_behind (count : Nat) (found : Found) :
    (found.behind count).stop = count + found.stop := Nat.add_assoc _ _ _

def StandsIn (text : Text) (found : Found) : Prop :=
  isPlaceholderName found.name = true ∧ ∃ front rest,
    text = front ++ (TokenShape.quoted.spell found.name ++ rest) ∧ front.length = found.place

/-- What a search from the left finds: placeholders that do not overlap, in order, and every other
placeholder overlaps one of them that begins ahead of it. -/
structure Leftmost (text : Text) (all : List Found) : Prop where
  stands : ∀ found ∈ all, found.StandsIn text
  apart : all.Pairwise fun a b => a.stop ≤ b.place
  overlapped : ∀ found : Found, found.StandsIn text →
    found ∈ all ∨ ∃ a ∈ all, a.place < found.place ∧ found.place < a.stop

section Search

variable {c : Char} {name text front rest : Text} {found : Found} {all others : List Found}

theorem standsIn_append (front : Text) :
    (found.behind front.length).StandsIn (front ++ text) ↔ found.StandsIn text := by
  refine and_congr_right fun _ => ⟨?_, ?_⟩
  · rintro ⟨ahead, rest, htext, hlength⟩
    obtain ⟨more, rfl⟩ : front <+: ahead := by
      have hprefix : front <+: ahead ++ (TokenShape.quoted.spell found.name ++ rest) :=
        ⟨text, htext⟩
      refine List.prefix_of_prefix_length_le hprefix (List.prefix_append _ _) ?_
      rw [hlength]
      exact Nat.le_add_right _ _
    refine ⟨more, rest, ?_, ?_⟩
    · rw [List.append_assoc] at htext
      exact List.append_cancel_left htext
    · rw [List.length_append] at hlength
      exact Nat.add_left_cancel hlength
  · rintro ⟨ahead, rest, rfl, hlength⟩
    refine ⟨front ++ ahead, rest, (List.append_assoc _ _ _).symm, ?_⟩
    rw [List.length_append, hlength]
    rfl

theorem exists_behind (h : found.StandsIn (front ++ text)) (hle : front.length ≤ found.place) :
    ∃ later : Found, later.StandsIn text ∧ found = later.behind front.length := by
  have heq : found = Found.behind front.length ⟨found.place - front.length, found.name⟩ := by
    obtain ⟨place, name⟩ := found
    have hplace : front.length + (place - front.length) = place := Nat.add_sub_cancel' hle
    rw [behind, hplace]
  rw [heq, standsIn_append] at h
  exact ⟨_, h, heq⟩

theorem standsIn_start : StandsIn text ⟨0, name⟩ ↔
    ∃ rest, TokenShape.quoted.read? text = some (name, rest) := by
  constructor
  · rintro ⟨hname, front, rest, rfl, hlength⟩
    rw [List.length_eq_zero_iff.1 hlength, List.nil_append]
    obtain ⟨hfirst, hspent⟩ := isPlaceholderName_iff.1 hname
    exact ⟨rest, TokenShape.read?_spell_append ⟨_, rfl⟩ hfirst hspent rest⟩
  · rintro ⟨rest, hread⟩
    exact ⟨isPlaceholderName_iff.2 (TokenShape.name_of_read? hread), [], rest,
      (TokenShape.eq_spell_of_read? hread).2, rfl⟩

theorem apart_behind (count : Nat) (h : all.Pairwise fun a b => a.stop ≤ b.place) :
    (all.map (behind count)).Pairwise fun a b => a.stop ≤ b.place := by
  rw [List.pairwise_map]
  refine h.imp fun {a b} hle => ?_
  rw [stop_behind]
  exact Nat.add_le_add_left hle count

namespace Leftmost

theorem nil : Leftmost [] [] where
  stands := nofun
  apart := .nil
  overlapped := by
    rintro found ⟨-, front, rest, htext, -⟩
    have hlength := congrArg List.length htext
    simp [TokenShape.spell, TokenShape.quoted] at hlength

theorem char (hread : TokenShape.quoted.read? (c :: text) = none) (h : Leftmost text all) :
    Leftmost (c :: text) (all.map (behind 1)) where
  stands := by
    intro found hmem
    obtain ⟨later, hlater, rfl⟩ := List.mem_map.1 hmem
    exact (standsIn_append [c]).2 (h.stands later hlater)
  apart := apart_behind 1 h.apart
  overlapped := by
    intro found hfound
    obtain ⟨place, name⟩ := found
    cases place with
    | zero =>
        obtain ⟨rest, hsome⟩ := standsIn_start.1 hfound
        cases hread.symm.trans hsome
    | succ place =>
        have hbehind : StandsIn ([c] ++ text) ⟨place + 1, name⟩ := hfound
        obtain ⟨later, hlater, heq⟩ := exists_behind hbehind (Nat.le_add_left _ _)
        rw [heq]
        refine (h.overlapped later hlater).imp (List.mem_map_of_mem) ?_
        rintro ⟨a, ha, hbefore, hover⟩
        refine ⟨a.behind 1, List.mem_map_of_mem ha, Nat.add_lt_add_left hbefore 1, ?_⟩
        rw [stop_behind]
        exact Nat.add_lt_add_left hover 1

theorem token (hread : TokenShape.quoted.read? text = some (name, rest)) (h : Leftmost rest all) :
    Leftmost text
      (⟨0, name⟩ :: all.map (behind (TokenShape.quoted.spell name).length)) := by
  have htext := (TokenShape.eq_spell_of_read? hread).2
  have hfirst : stop ⟨0, name⟩ = (TokenShape.quoted.spell name).length := Nat.zero_add _
  refine ⟨?_, ?_, ?_⟩
  · intro found hmem
    rcases List.mem_cons.1 hmem with rfl | hmem
    · exact standsIn_start.2 ⟨rest, hread⟩
    · obtain ⟨later, hlater, rfl⟩ := List.mem_map.1 hmem
      rw [htext]
      exact (standsIn_append _).2 (h.stands later hlater)
  · refine List.pairwise_cons.2 ⟨fun found hmem => ?_, apart_behind _ h.apart⟩
    obtain ⟨later, -, rfl⟩ := List.mem_map.1 hmem
    rw [hfirst]
    exact Nat.le_add_right _ _
  · intro found hfound
    by_cases hinside : found.place < (TokenShape.quoted.spell name).length
    · obtain ⟨place, other⟩ := found
      cases place with
      | zero =>
          obtain ⟨after, hsome⟩ := standsIn_start.1 hfound
          cases hread.symm.trans hsome
          exact .inl List.mem_cons_self
      | succ place =>
          exact .inr ⟨⟨0, name⟩, List.mem_cons_self, Nat.succ_pos _, hfirst.symm ▸ hinside⟩
    · rw [htext] at hfound
      obtain ⟨later, hlater, rfl⟩ := exists_behind hfound (Nat.le_of_not_lt hinside)
      rcases h.overlapped later hlater with hmem | ⟨a, ha, hbefore, hover⟩
      · exact .inl (List.mem_cons_of_mem _ (List.mem_map_of_mem hmem))
      · refine .inr ⟨_, List.mem_cons_of_mem _ (List.mem_map_of_mem ha),
          Nat.add_lt_add_left hbefore _, ?_⟩
        rw [stop_behind]
        exact Nat.add_lt_add_left hover _

theorem disjoint (h : Leftmost text all) {a b : Found} (ha : a ∈ all) (hb : b ∈ all) (hne : a ≠ b) :
    a.stop ≤ b.place ∨ b.stop ≤ a.place := by
  have hsymm : Std.Symm fun a b : Found => a.stop ≤ b.place ∨ b.stop ≤ a.place :=
    ⟨fun _ _ => Or.symm⟩
  have hapart : all.Pairwise fun a b => a.stop ≤ b.place ∨ b.stop ≤ a.place := h.apart.imp .inl
  exact hapart.forall ha hb hne

theorem mem_of_mem (h : Leftmost text all) (hothers : Leftmost text others) (hmem : found ∈ all)
    (hearlier : ∀ a : Found, a.place < found.place → a ∈ others → a ∈ all) : found ∈ others := by
  refine (hothers.overlapped found (h.stands found hmem)).resolve_right ?_
  rintro ⟨a, ha, hbefore, hover⟩
  have hne : a ≠ found := by
    rintro rfl
    exact Nat.lt_irrefl _ hbefore
  have hstop := found.place_lt_stop
  rcases h.disjoint (hearlier a hbefore ha) hmem hne with hle | hle <;> omega

/-- A text leaves a search from the left no choice. -/
theorem unique (h : Leftmost text all) (hothers : Leftmost text others) : all = others := by
  have hmem (place : Nat) : ∀ found : Found, found.place = place →
      (found ∈ all ↔ found ∈ others) := by
    induction place using Nat.strongRecOn with
    | ind place ih =>
    rintro found rfl
    exact ⟨fun hfound => mem_of_mem h hothers hfound fun a ha => (ih _ ha a rfl).2,
      fun hfound => mem_of_mem hothers h hfound fun a ha => (ih _ ha a rfl).1⟩
  have hascending {all : List Found} (h : Leftmost text all) :
      all.Pairwise fun a b => a.place < b.place :=
    h.apart.imp fun {a b} hle => Nat.lt_of_lt_of_le a.place_lt_stop hle
  have hasymm : Std.Asymm fun a b : Found => a.place < b.place :=
    ⟨fun a b => Nat.lt_asymm⟩
  exact (hascending h).eq_of_mem_iff (hascending hothers) fun found => hmem _ found rfl

end Leftmost

end Search

end Found

def placed : List Piece → List Found
  | [] => []
  | .char _ :: pieces => (placed pieces).map (Found.behind 1)
  | .token name :: pieces =>
    ⟨0, name⟩ :: (placed pieces).map (Found.behind (TokenShape.quoted.spell name).length)

theorem leftmost_scan (text : Text) : Found.Leftmost text (placed (TokenShape.quoted.scan text)) := by
  fun_induction TokenShape.scan TokenShape.quoted text with
  | case1 => exact .nil
  | case2 c text name rest hread ih => exact .token hread ih
  | case3 c text hread ih => exact .char hread ih

namespace Template

/-- The slots among segments, by the places at which they stand in the text. -/
def places : List Segment → List Found
  | [] => []
  | .text s :: segments => (places segments).map (Found.behind s.length)
  | .slot name :: segments =>
    ⟨0, name⟩ :: (places segments).map (Found.behind (TokenShape.quoted.spell name).length)

def isSlot (found : Found) : Bool := !stylePrefix.isPrefixOf found.name

theorem places_addText (s : Text) (segments : List Segment) :
    places (addText s segments) = (places segments).map (Found.behind s.length) := by
  match segments with
  | [] => rfl
  | .slot _ :: _ => rfl
  | .text t :: segments =>
      have hbehind : Found.behind s.length ∘ Found.behind t.length =
          Found.behind (s ++ t).length := by
        funext found
        simp only [Function.comp_apply, Found.behind, List.length_append, Nat.add_assoc]
      rw [addText, places, places, List.map_map, hbehind]

theorem filter_behind (count : Nat) (all : List Found) :
    (all.map (Found.behind count)).filter isSlot = (all.filter isSlot).map (Found.behind count) := by
  rw [List.filter_map]
  rfl

/-- Slots stand where quoted placeholders are found that are no style tags. -/
theorem places_foldr (pieces : List Piece) :
    places (pieces.foldr addPiece []) = (placed pieces).filter isSlot := by
  induction pieces with
  | nil => rfl
  | cons piece pieces ih =>
      rw [List.foldr_cons]
      cases piece with
      | char c =>
          rw [placed, filter_behind, ← ih]
          exact places_addText [c] _
      | token name =>
          rw [placed, List.filter_cons, filter_behind, ← ih, addPiece, isSlot]
          by_cases hstyle : stylePrefix.isPrefixOf name
          · rw [hstyle]
            exact places_addText _ _
          · rw [Bool.eq_false_iff.2 hstyle]
            rfl

theorem ne_nil_of_mem_addText {s t : Text} {segments : List Segment} (hs : s ≠ [])
    (h : ∀ t, .text t ∈ segments → t ≠ []) (ht : .text t ∈ addText s segments) : t ≠ [] := by
  match segments with
  | [] =>
      cases List.mem_singleton.1 ht
      exact hs
  | .slot name :: segments =>
      rcases List.mem_cons.1 ht with heq | ht
      · cases heq
        exact hs
      · exact h t ht
  | .text u :: segments =>
      rcases List.mem_cons.1 ht with heq | ht
      · cases heq
        simp [hs]
      · exact h t (List.mem_cons_of_mem _ ht)

theorem text_ne_nil {text s : Text} (h : .text s ∈ (ofText text).segments) : s ≠ [] := by
  rw [ofText] at h
  dsimp only at h
  generalize TokenShape.quoted.scan text = pieces at h
  induction pieces generalizing s with
  | nil => cases h
  | cons piece pieces ih =>
      rw [List.foldr_cons] at h
      cases piece with
      | char c => exact ne_nil_of_mem_addText (List.cons_ne_nil _ _) (fun t ht => ih ht) h
      | token name =>
          rw [addPiece] at h
          split at h
          · exact ne_nil_of_mem_addText (List.cons_ne_nil _ _) (fun t ht => ih ht) h
          · rcases List.mem_cons.1 h with heq | h
            · cases heq
            · exact ih h

theorem name_of_slot {text name : Text} (h : .slot name ∈ (ofText text).segments) :
    isPlaceholderName name = true ∧ stylePrefix.isPrefixOf name = false := by
  obtain ⟨hmem, hstyle⟩ := token_of_slot h
  obtain ⟨-, after, rest, -, hread⟩ := TokenShape.exists_read?_of_mem_scan hmem
  exact ⟨isPlaceholderName_iff.2 (TokenShape.name_of_read? hread), hstyle⟩

/-- The segments of a text give it back in full; none of them is empty, no two texts are next to
each other, and every slot has a slot's name. There is one way to search a text for quoted
placeholders from the left, and the slots are what it finds, each in its place, without the style
tags. -/
theorem split_lossless (text : Text) :
    (ofText text).segments.flatMap Segment.spell = text ∧
      (∀ s, .text s ∈ (ofText text).segments → s ≠ []) ∧
      Alternating (ofText text).segments ∧
      (∀ name, .slot name ∈ (ofText text).segments →
        isPlaceholderName name = true ∧ stylePrefix.isPrefixOf name = false) ∧
      ∃ all, Found.Leftmost text all ∧ (∀ others, Found.Leftmost text others → others = all) ∧
        places (ofText text).segments = all.filter isSlot :=
  ⟨spell_ofText text, fun _ => text_ne_nil, alternating_ofText text, fun _ => name_of_slot,
    placed (TokenShape.quoted.scan text), leftmost_scan text,
    fun _ h => h.unique (leftmost_scan text), places_foldr _⟩

end Template

end Highlight
