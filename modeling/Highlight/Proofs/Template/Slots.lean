import Highlight.Proofs.Json.Resolved
import Highlight.Proofs.Template.Content
import Highlight.Proofs.Template.Piecewise

/-!
Templates that are JSON documents. A template is cut into slots and the text between them without
regard to JSON; as long as its slots are strings of the document, every text between them falls into
tokens of its own, and so does the document that has other content in its slots.
-/

namespace Highlight

open Json

/-- The text that a segment was cut out of a template as. -/
def Segment.spell : Segment → Text
  | .text s => s
  | .slot name => TokenShape.quoted.spell name

namespace Template

theorem spell_addText (s : Text) (segments : List Segment) :
    (addText s segments).flatMap Segment.spell = s ++ segments.flatMap Segment.spell := by
  match segments with
  | [] => rfl
  | .slot _ :: _ => rfl
  | .text t :: segments => exact List.append_assoc s t _

theorem spell_ofText (text : Text) : (ofText text).segments.flatMap Segment.spell = text := by
  have hpieces (pieces : List Piece) : (pieces.foldr addPiece []).flatMap Segment.spell =
      pieces.flatMap TokenShape.quoted.spellPiece := by
    induction pieces with
    | nil => rfl
    | cons piece pieces ih =>
        rw [List.foldr_cons, List.flatMap_cons, ← ih]
        cases piece with
        | char c => exact spell_addText [c] _
        | token name =>
            unfold addPiece
            dsimp only
            split
            · exact spell_addText _ _
            · rfl
  rw [ofText, hpieces, TokenShape.spell_scan]

theorem isTokenChar_slot {text name : Text} (h : .slot name ∈ (ofText text).segments) :
    ∀ c ∈ name, isTokenChar c = true :=
  TokenShape.isTokenChar_of_mem_scan (token_of_slot h).1

end Template

theorem prints_slot {name : Text} (h : ∀ c ∈ name, isTokenChar c = true) :
    Prints (TokenShape.quoted.spell name) [.string (slotToken name)] := by
  have hplain : ∀ c ∈ slotToken name, IsPlain c := by
    intro c hc
    rw [slotToken, TokenShape.spell, List.append_assoc, List.mem_append, List.mem_append] at hc
    rcases hc with hc | hc | hc
    · exact isPlain_of_isTokenChar (solid_any.opening c hc)
    · exact isPlain_of_isTokenChar (h c hc)
    · exact isPlain_of_isTokenChar (solid_any.closing c hc)
  have hwell : (Token.string (slotToken name)).WellFormed := by
    have hspells := Spells.append_plain hplain .nil
    rw [List.append_nil] at hspells
    exact ⟨slotToken name, hspells⟩
  have hspelling : TokenShape.quoted.spell name = (Token.string (slotToken name)).spelling := by
    simp [TokenShape.spell, TokenShape.quoted, TokenShape.any, slotToken, Token.spelling]
  rw [hspelling]
  refine .token _ hwell fun n heq => ?_
  cases heq

theorem alternating_tail {segment : Segment} {segments : List Segment}
    (h : Alternating (segment :: segments)) : Alternating segments := by
  match segment, segments, h with
  | .slot _, _, h => exact h
  | .text _, [], _ => trivial
  | .text _, .slot _ :: _, h => exact h
  | .text _, .text _ :: _, h => exact absurd h id

theorem alternating_back {front back : List Segment} (h : Alternating (front ++ back)) :
    Alternating back := by
  induction front with
  | nil => exact h
  | cons segment front ih => exact ih (alternating_tail h)

theorem alternating_front {front back : List Segment} (h : Alternating (front ++ back)) :
    Alternating front := by
  induction front with
  | nil => trivial
  | cons segment front ih =>
      match segment, front, h with
      | .slot _, _, h => exact ih h
      | .text _, [], _ => trivial
      | .text _, .slot _ :: _, h => exact ih h
      | .text _, .text _ :: _, h => exact absurd h id

namespace Compositor

/-- Every slot is a whole string of the document, and one that rules fill is an item of an array. -/
def Fits (c : Compositor) (template : Template) : Prop :=
  ∀ before name after, template.segments = before ++ .slot name :: after →
    ∃ ahead, tokens? (before.flatMap Segment.spell) = some ahead ∧
      ∀ list, c.substitutions.get? name = some (.rules list) → InArray ahead

/-- The tokens of a template, and those with every slot replaced by the tokens of its content. -/
inductive Fills (c : Compositor) : List Segment → List Token → List Token → Prop
  | nil : Fills c [] [] []
  | text {s : Text} {between tokens filled : List Token} {segments : List Segment}
      (hs : tokens? s = some between) (h : Fills c segments tokens filled) :
      Fills c (.text s :: segments) (between ++ tokens) (between ++ filled)
  | slot {name : Text} {content : Content} {tokens filled : List Token} {segments : List Segment}
      (hcontent : c.substitutions.get? name = some content) (h : Fills c segments tokens filled) :
      Fills c (.slot name :: segments) (.string (slotToken name) :: tokens)
        (content.tokens ++ filled)

variable {c : Compositor} {template : Template} {segments : List Segment}
  {tokens filled : List Token}

section Between

variable {before after : List Segment} {s : Text}

/-- What stands ahead of a text falls into tokens, and no number reaches from it into the text. -/
theorem tokens?_ahead (hfits : c.Fits template) (halternating : Alternating template.segments)
    (hnames : ∀ name, .slot name ∈ template.segments → ∀ c ∈ name, isTokenChar c = true)
    (h : template.segments = before ++ .text s :: after) :
    ∃ ahead, tokens? (before.flatMap Segment.spell) = some ahead ∧
      ∀ c ∈ (before.flatMap Segment.spell).getLast?, Numeral.isNumberChar c = false := by
  rcases List.eq_nil_or_concat before with rfl | ⟨front, segment, hlast⟩
  · exact ⟨[], tokens?_nil, nofun⟩
  · rw [List.concat_eq_append] at hlast
    subst hlast
    rw [List.append_assoc, List.singleton_append] at h
    cases segment with
    | text t =>
        rw [h] at halternating
        exact absurd (alternating_back halternating) id
    | slot name =>
        obtain ⟨ahead, hahead, -⟩ := hfits front name _ h
        have hslot := prints_slot (hnames name (by simp [h]))
        have hapart : Apart (front.flatMap Segment.spell) (TokenShape.quoted.spell name) :=
          .inr fun c hc => Option.some.inj hc ▸ rfl
        refine ⟨ahead ++ [.string (slotToken name)], ?_, ?_⟩
        · rw [List.flatMap_append, List.flatMap_singleton, Segment.spell,
            tokens?_append hahead hapart, hslot.tokens?_eq, Option.map_some]
        · intro c hc
          rw [List.flatMap_append, List.flatMap_singleton, Segment.spell, TokenShape.spell,
            ← List.append_assoc, List.getLast?_append] at hc
          exact Option.some.inj hc ▸ rfl

/-- The document falls into tokens up to the end of a text: there it ends, or a slot begins. -/
theorem tokens?_through {all : List Token} (hfits : c.Fits template)
    (halternating : Alternating template.segments)
    (hall : tokens? (template.segments.flatMap Segment.spell) = some all)
    (h : template.segments = before ++ .text s :: after) :
    ∃ through, tokens? ((before ++ [Segment.text s]).flatMap Segment.spell) = some through := by
  cases after with
  | nil => exact ⟨all, h ▸ hall⟩
  | cons segment after =>
      cases segment with
      | text t =>
          rw [h] at halternating
          exact absurd (alternating_back halternating) id
      | slot name =>
          obtain ⟨through, hthrough, -⟩ := hfits (before ++ [Segment.text s]) name after (by simp [h])
          exact ⟨through, hthrough⟩

/-- A text between slots falls into tokens, for the document does so up to the slots at its ends. -/
theorem exists_tokens?_text {all : List Token} (hfits : c.Fits template)
    (halternating : Alternating template.segments)
    (hall : tokens? (template.segments.flatMap Segment.spell) = some all)
    (hnames : ∀ name, .slot name ∈ template.segments → ∀ c ∈ name, isTokenChar c = true)
    (h : template.segments = before ++ .text s :: after) : ∃ between, tokens? s = some between := by
  obtain ⟨ahead, hahead, hlast⟩ := tokens?_ahead hfits halternating hnames h
  obtain ⟨through, hthrough⟩ := tokens?_through hfits halternating hall h
  rw [List.flatMap_append, tokens?_append hahead (.inl hlast)] at hthrough
  obtain ⟨between, hbetween, -⟩ := Option.map_eq_some_iff.1 hthrough
  exact ⟨between, by simpa [Segment.spell] using hbetween⟩

end Between

theorem fill_text (s : Text) :
    c.fill (.text s :: segments) = (c.fill segments).map (s ++ ·) := by
  simp only [fill, fillSegment, bind, Except.bind]
  cases c.fill segments <;> rfl

theorem fill_slot {name : Text} {content : Content}
    (hcontent : c.substitutions.get? name = some content) :
    c.fill (.slot name :: segments) = (c.fill segments).map (content.render ++ ·) := by
  simp only [fill, fillSegment, hcontent, bind, Except.bind]
  cases c.fill segments <;> rfl

theorem exists_fills {document : Text} (h : c.fill segments = .ok document)
    (htexts : ∀ s, .text s ∈ segments → ∃ between, tokens? s = some between) :
    ∃ tokens filled, c.Fills segments tokens filled := by
  induction segments generalizing document with
  | nil => exact ⟨[], [], .nil⟩
  | cons segment segments ih =>
      have hrest := fun s hmem => htexts s (List.mem_cons_of_mem _ hmem)
      cases segment with
      | text s =>
          rw [fill_text, map_eq_ok_iff] at h
          obtain ⟨rest, hfill, -⟩ := h
          obtain ⟨between, hbetween⟩ := htexts s List.mem_cons_self
          obtain ⟨tokens, filled, hfills⟩ := ih hfill hrest
          exact ⟨_, _, .text hbetween hfills⟩
      | slot name =>
          cases hcontent : c.substitutions.get? name with
          | none =>
              obtain ⟨piece, hpiece, -⟩ := bind_eq_ok_iff.1 h
              rw [fillSegment_eq_ok_iff, piece?, hcontent] at hpiece
              cases hpiece
          | some content =>
              rw [fill_slot hcontent, map_eq_ok_iff] at h
              obtain ⟨rest, hfill, -⟩ := h
              obtain ⟨tokens, filled, hfills⟩ := ih hfill hrest
              exact ⟨_, _, .slot hcontent hfills⟩

namespace Fills

theorem append {front back : List Segment} {xs ys xs' ys' : List Token}
    (hfront : c.Fills front xs xs') (hback : c.Fills back ys ys') :
    c.Fills (front ++ back) (xs ++ ys) (xs' ++ ys') := by
  induction hfront with
  | nil => exact hback
  | text hs h ih =>
      rw [List.append_assoc, List.append_assoc]
      exact .text hs ih
  | slot hcontent h ih =>
      rw [List.append_assoc]
      exact .slot hcontent ih

theorem tokens?_text_append {s back : Text} {between more : List Token}
    (hs : tokens? s = some between) (hback : tokens? back = some more)
    (hhead : ∀ c ∈ back.head?, Numeral.isNumberChar c = false) :
    tokens? (s ++ back) = some (between ++ more) := by
  rw [tokens?_append hs (.inr hhead), hback, Option.map_some]

theorem tokens?_spell (h : c.Fills segments tokens filled) (halternating : Alternating segments)
    (hnames : ∀ name, .slot name ∈ segments → ∀ c ∈ name, isTokenChar c = true) :
    tokens? (segments.flatMap Segment.spell) = some tokens := by
  induction h with
  | nil => exact tokens?_nil
  | @text s between tokens filled segments hs h ih =>
      have hrest := ih (alternating_tail halternating)
        fun name hmem => hnames name (List.mem_cons_of_mem _ hmem)
      rw [List.flatMap_cons]
      refine tokens?_text_append hs hrest ?_
      match segments, halternating with
      | [], _ => exact nofun
      | .slot name :: _, _ => exact fun c hc => Option.some.inj hc ▸ rfl
      | .text _ :: _, halternating => exact absurd halternating id
  | @slot name content tokens filled segments hcontent h ih =>
      have hrest := ih halternating fun name hmem => hnames name (List.mem_cons_of_mem _ hmem)
      have hslot := prints_slot (hnames name List.mem_cons_self)
      rw [List.flatMap_cons, Segment.spell, hslot, hrest]
      rfl

theorem tokens?_fill (hc : c.Substantial) (h : c.Fills segments tokens filled)
    (halternating : Alternating segments) {document : Text} (hfill : c.fill segments = .ok document) :
    tokens? document = some filled := by
  induction h generalizing document with
  | nil =>
      cases hfill
      exact tokens?_nil
  | @text s between tokens filled segments hs h ih =>
      rw [fill_text, map_eq_ok_iff] at hfill
      obtain ⟨back, hback, rfl⟩ := hfill
      have hrest := ih (alternating_tail halternating) hback
      refine tokens?_text_append hs hrest ?_
      cases h with
      | nil =>
          cases hback
          exact nofun
      | text hs h => exact absurd halternating id
      | @slot name content tokens filled segments hcontent h =>
          rw [fill_slot hcontent, map_eq_ok_iff] at hback
          obtain ⟨rest, -, rfl⟩ := hback
          have hne : content ≠ .rules [] := fun heq => hc name (heq ▸ hcontent)
          obtain ⟨d, more, hrender, hd⟩ := Content.head?_render hne
          rw [hrender]
          exact fun c hc => Option.some.inj hc ▸ hd
  | slot hcontent h ih =>
      rw [fill_slot hcontent, map_eq_ok_iff] at hfill
      obtain ⟨back, hback, rfl⟩ := hfill
      rw [Content.prints_render, ih halternating hback, Option.map_some]

end Fills

end Compositor

end Highlight
