import Highlight.Proofs.Style
import Highlight.Template.Compose

/-!
The pieces of a document. What fills a slot begins and ends with a quote or a brace, and a template
never has two texts next to each other, so that no token reaches from one piece into another: not
before style tags are resolved and not after.
-/

namespace Highlight

theorem fenced_between {left right : Char} (hleft : isTokenChar left = false)
    (hright : isTokenChar right = false) (inner : Text) :
    Fenced (left :: (inner ++ [right])) :=
  ⟨⟨left, _, hleft, rfl⟩, ⟨left :: inner, right, hright, rfl⟩⟩

theorem fenced_quote (s : Text) : Fenced (Json.quote s) := fenced_between (by decide) (by decide) _

theorem fenced_block (level : Nat) (items : List Text) :
    Fenced (Json.block '\x7b' '\x7d' level items) := by
  rw [Json.block]
  split
  · exact fenced_between (by decide) (by decide) []
  · exact fenced_between (by decide) (by decide) _

theorem fenced_pretty (rule : Rule) : Fenced rule.pretty := fenced_block _ _

theorem Fenced.append {front back : Text} (hfront : Fenced front) (hback : Fenced back)
    (middle : Text) : Fenced (front ++ (middle ++ back)) := by
  obtain ⟨b, rest, hb, rfl⟩ := hfront.first
  obtain ⟨before, d, hd, rfl⟩ := hback.last
  refine ⟨⟨b, _, hb, rfl⟩, ⟨b :: rest ++ (middle ++ before), d, hd, ?_⟩⟩
  simp only [List.append_assoc]

theorem fenced_join {texts : List Text} (separator : Text) (hne : texts ≠ [])
    (h : ∀ text ∈ texts, Fenced text) : Fenced (Text.join separator texts) := by
  induction texts with
  | nil => exact absurd rfl hne
  | cons first texts ih =>
      cases texts with
      | nil =>
          rw [Text.join, List.intercalate_singleton]
          exact h first List.mem_cons_self
      | cons second texts =>
          have hrest := ih (List.cons_ne_nil _ _) fun text hmem => h text (List.mem_cons_of_mem _ hmem)
          rw [Text.join, List.intercalate_cons_cons, List.append_assoc]
          exact (h first List.mem_cons_self).append hrest separator

theorem fenced_render {content : Content} (h : content ≠ .rules []) : Fenced content.render := by
  cases content with
  | text s => exact fenced_quote s
  | rules list =>
      refine fenced_join _ (by simpa using h) fun text hmem => ?_
      obtain ⟨rule, -, rfl⟩ := List.mem_map.1 hmem
      exact fenced_pretty rule

/-- Pieces of which at least every second one is fenced. -/
inductive Spaced : List Text → Prop
  | nil : Spaced []
  | last (text : Text) : Spaced [text]
  | fenced {piece : Text} {pieces : List Text} (hpiece : Fenced piece) (h : Spaced pieces) :
      Spaced (piece :: pieces)
  | text {text piece : Text} {pieces : List Text} (hpiece : Fenced piece)
      (h : Spaced (piece :: pieces)) : Spaced (text :: piece :: pieces)

theorem Fenced.flatten {piece : Text} (h : Fenced piece) (pieces : List Text) :
    ∃ b after, isTokenChar b = false ∧ (piece :: pieces).flatten = b :: after := by
  obtain ⟨b, rest, hb, rfl⟩ := h.first
  exact ⟨b, rest ++ pieces.flatten, hb, rfl⟩

/-- No token reaches from one piece into another. -/
theorem Spaced.scan_flatten {t : TokenShape} (ht : t.Solid) {pieces : List Text}
    (h : Spaced pieces) : t.scan pieces.flatten = pieces.flatMap t.scan := by
  induction h with
  | nil => rw [List.flatten_nil, TokenShape.scan, List.flatMap_nil]
  | last text => simp
  | fenced hpiece h ih =>
      rw [List.flatten_cons, TokenShape.scan_append_of_last ht _ hpiece.last, ih, List.flatMap_cons]
  | text hpiece h ih =>
      rw [List.flatten_cons, TokenShape.scan_append_of_first ht _ (hpiece.flatten _), ih]
      rfl

section Resolved

variable {m : StyleMap} {piece resolved : Text}

/-- What a fenced piece begins and ends with is no part of a style tag and stays. -/
theorem Fenced.resolve (h : Fenced piece) (hresolved : m.resolve piece = .ok resolved) :
    Fenced resolved := by
  constructor
  · obtain ⟨b, rest, hb, rfl⟩ := h.first
    rw [← List.nil_append (b :: rest), StyleMap.resolve_break_eq_ok_iff hb] at hresolved
    obtain ⟨first, last, hfirst, -, rfl⟩ := hresolved
    cases StyleMap.resolve_nil.symm.trans hfirst
    exact ⟨b, last, hb, rfl⟩
  · obtain ⟨before, b, hb, rfl⟩ := h.last
    rw [StyleMap.resolve_break_eq_ok_iff hb] at hresolved
    obtain ⟨first, last, -, hlast, rfl⟩ := hresolved
    cases StyleMap.resolve_nil.symm.trans hlast
    exact ⟨first, b, hb, rfl⟩

theorem resolvePieces_flatMap_eq_ok_iff {pieces : List Text} {out : Text} :
    m.resolvePieces (pieces.flatMap TokenShape.style.scan) = .ok out ↔
      ∃ resolved : List Text, pieces.map m.resolve = resolved.map .ok ∧ out = resolved.flatten := by
  induction pieces generalizing out with
  | nil => simp [StyleMap.resolvePieces, eq_comm]
  | cons piece pieces ih =>
      rw [List.flatMap_cons, StyleMap.resolvePieces_append, ← StyleMap.resolve, List.map_cons]
      simp only [bind_eq_ok_iff]
      constructor
      · intro hall
        obtain ⟨first, hfirst, last, hlast, hout⟩ := hall
        cases hout
        obtain ⟨resolved, hresolved, rfl⟩ := ih.1 hlast
        exact ⟨first :: resolved, by rw [hfirst, hresolved, List.map_cons], rfl⟩
      · intro hall
        obtain ⟨resolved, hresolved, rfl⟩ := hall
        obtain ⟨first, rest, rfl, hfirst, hrest⟩ := List.map_eq_cons_iff.1 hresolved.symm
        exact ⟨first, hfirst.symm, rest.flatten, ih.2 ⟨rest, hrest.symm, rfl⟩, rfl⟩

/-- A document is resolved piece by piece. -/
theorem Spaced.resolve_flatten_eq_ok_iff {pieces : List Text} {out : Text} (h : Spaced pieces) :
    m.resolve pieces.flatten = .ok out ↔
      ∃ resolved : List Text, pieces.map m.resolve = resolved.map .ok ∧ out = resolved.flatten := by
  rw [StyleMap.resolve, h.scan_flatten solid_style, resolvePieces_flatMap_eq_ok_iff]

theorem Spaced.resolve {pieces resolved : List Text} (h : Spaced pieces)
    (hresolved : pieces.map m.resolve = resolved.map .ok) : Spaced resolved := by
  induction h generalizing resolved with
  | nil =>
      rw [List.map_eq_nil_iff.1 hresolved.symm]
      exact .nil
  | last text =>
      obtain ⟨first, rest, rfl, -, hrest⟩ := List.map_eq_cons_iff.1 hresolved.symm
      rw [List.map_eq_nil_iff.1 hrest]
      exact .last first
  | fenced hpiece h ih =>
      obtain ⟨first, rest, rfl, hfirst, hrest⟩ := List.map_eq_cons_iff.1 hresolved.symm
      exact .fenced (hpiece.resolve hfirst.symm) (ih hrest.symm)
  | text hpiece h ih =>
      obtain ⟨first, rest, rfl, -, hrest⟩ := List.map_eq_cons_iff.1 hresolved.symm
      obtain ⟨second, rest, rfl, hsecond, -⟩ := List.map_eq_cons_iff.1 hrest
      exact .text (hpiece.resolve hsecond.symm) (ih hrest.symm)

end Resolved

def Alternating : List Segment → Prop
  | .text _ :: .text _ :: _ => False
  | _ :: segments => Alternating segments
  | [] => True

theorem alternating_slot (name : Text) {segments : List Segment} (h : Alternating segments) :
    Alternating (.slot name :: segments) := h

theorem alternating_addText (s : Text) {segments : List Segment} (h : Alternating segments) :
    Alternating (Template.addText s segments) := by
  match segments with
  | [] => trivial
  | .slot _ :: _ => exact h
  | [.text _] => trivial
  | .text _ :: .slot _ :: _ => exact h
  | .text _ :: .text _ :: _ => exact absurd h id

/-- A template that was cut out of a text has no two texts next to each other. -/
theorem alternating_ofText (text : Text) : Alternating (Template.ofText text).segments := by
  rw [Template.ofText]
  generalize TokenShape.quoted.scan text = pieces
  induction pieces with
  | nil => trivial
  | cons piece pieces ih =>
      rw [List.foldr_cons]
      cases piece with
      | char c => exact alternating_addText _ ih
      | token name =>
          rw [Template.addPiece]
          dsimp only
          split
          · exact alternating_addText _ ih
          · exact alternating_slot name ih

namespace Template

theorem mem_of_mem_addText {s name : Text} {segments : List Segment}
    (h : .slot name ∈ addText s segments) : .slot name ∈ segments := by
  match segments with
  | [] => simp [addText] at h
  | .slot _ :: _ => simpa [addText] using h
  | .text _ :: _ => simpa [addText] using h

theorem token_of_slot {text name : Text} (h : .slot name ∈ (ofText text).segments) :
    .token name ∈ TokenShape.quoted.scan text ∧ stylePrefix.isPrefixOf name = false := by
  rw [ofText] at h
  dsimp only at h
  generalize TokenShape.quoted.scan text = pieces at h ⊢
  induction pieces with
  | nil => cases h
  | cons piece pieces ih =>
      rw [List.foldr_cons] at h
      cases piece with
      | char c => exact (ih (mem_of_mem_addText h)).imp (List.mem_cons_of_mem _) id
      | token other =>
          unfold addPiece at h
          dsimp only at h
          split at h
          · exact (ih (mem_of_mem_addText h)).imp (List.mem_cons_of_mem _) id
          · next hstyle =>
              rcases List.mem_cons.1 h with heq | h
              · cases heq
                exact ⟨List.mem_cons_self, Bool.eq_false_iff.2 hstyle⟩
              · exact (ih h).imp (List.mem_cons_of_mem _) id

end Template

namespace Compositor

variable (c : Compositor)

def piece? : Segment → Option Text
  | .text s => some s
  | .slot name => (c.substitutions.get? name).map Content.render

/-- A compositor without empty lists of rules. -/
def Substantial : Prop := ∀ name, c.substitutions.get? name ≠ some (.rules [])

theorem substantial_single (styles : StyleMap) (name : Text) {content : Content}
    (h : content ≠ .rules []) : Substantial ⟨styles, ⟨Dictionary.empty.insert name content⟩⟩ := by
  intro other
  rw [Substitutions.get?, Dictionary.get?_insert]
  split
  · exact fun heq => h (Option.some.inj heq)
  · intro heq
    cases heq

variable {c} {segments : List Segment} {pieces : List Text}

theorem fenced_slot (hc : c.Substantial) {name piece : Text}
    (h : c.piece? (.slot name) = some piece) : Fenced piece := by
  obtain ⟨content, hcontent, rfl⟩ := Option.map_eq_some_iff.1 h
  exact fenced_render fun heq => hc name (heq ▸ hcontent)

theorem spaced_of_alternating (hc : c.Substantial) (h : Alternating segments)
    (hpieces : segments.map c.piece? = pieces.map some) : Spaced pieces := by
  induction segments generalizing pieces with
  | nil =>
      cases pieces with
      | nil => exact .nil
      | cons piece pieces => cases hpieces
  | cons segment segments ih =>
      cases pieces with
      | nil => cases hpieces
      | cons piece pieces =>
          obtain ⟨hpiece, hrest⟩ : c.piece? segment = some piece ∧
              segments.map c.piece? = pieces.map some := List.cons.inj hpieces
          cases segment with
          | slot name => exact .fenced (fenced_slot hc hpiece) (ih h hrest)
          | text s =>
              match segments, pieces, hrest with
              | [], [], _ => exact .last _
              | .text _ :: _, _, _ => exact absurd h id
              | .slot name :: _, next :: _, hrest =>
                  exact .text (fenced_slot hc (List.cons.inj hrest).1) (ih h hrest)

end Compositor

end Highlight
