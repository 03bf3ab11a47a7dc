import Highlight.Proofs.Template.Piecewise
import Highlight.Proofs.Token

/-!
Composed documents hold no placeholder. The last look at a document finds whatever has the general
shape of a token, and slots and style tags of every spelling have that shape, however they came into
the document: left over from the template, brought in by content or by a classification, or put
together where a tag was replaced.
-/

namespace Highlight

/-- Content can be given to a slot of this name, or some template has one. -/
def IsSlotName (name : Text) : Prop :=
  (∃ (s s' : Substitutions) (content : Content), s.insert name content = .ok s') ∨
    ∃ text, name ∈ (Template.ofText text).slots

/-- A style tag of this name can be mapped. -/
def IsTagName (tag : Text) : Prop :=
  ∃ (m m' : StyleMap) (classification : Text), m.insert tag classification = .ok m'

theorem Template.mem_slots_iff {template : Template} {name : Text} :
    name ∈ template.slots ↔ .slot name ∈ template.segments := by
  rw [slots, List.mem_filterMap]
  constructor
  · rintro ⟨segment, hsegment, heq⟩
    cases segment with
    | text s => cases heq
    | slot other =>
        cases heq
        exact hsegment
  · exact fun h => ⟨_, h, rfl⟩

theorem isPlaceholderName_of_mem_scan_quoted {text name : Text}
    (h : .token name ∈ TokenShape.quoted.scan text) : isPlaceholderName name = true := by
  obtain ⟨-, after, rest, -, hread⟩ := TokenShape.exists_read?_of_mem_scan h
  exact isPlaceholderName_iff.2 (TokenShape.name_of_read? hread)

theorem IsSlotName.isPlaceholderName {name : Text} (h : IsSlotName name) :
    isPlaceholderName name = true := by
  rcases h with ⟨s, s', content, h⟩ | ⟨text, h⟩
  · rw [Substitutions.insert] at h
    split at h
    · cases h
    · next hname => simpa using hname
  · exact isPlaceholderName_of_mem_scan_quoted
      (Template.token_of_slot (Template.mem_slots_iff.1 h)).1

theorem IsTagName.isPlaceholderName {tag : Text} (h : IsTagName tag) :
    isPlaceholderName tag = true := by
  obtain ⟨m, m', classification, h⟩ := h
  exact (StyleMap.insert_eq_ok_iff.1 h).1

/-- A text in which no placeholder of either kind is left, so that it has no slots and no map of
styles changes it. -/
structure Bare (out : Text) : Prop where
  slot : ∀ name, IsSlotName name → ¬slotToken name <:+: out
  tag : ∀ tag, IsTagName tag → ¬TokenShape.style.spell tag <:+: out
  style : ∀ text tag, TokenShape.style.first? text = some tag → ¬text <:+: out
  slots : (Template.ofText out).slots = []
  resolve : ∀ m : StyleMap, m.resolve out = .ok out

theorem resolvePieces_of_forall_not_isToken (m : StyleMap) {pieces : List Piece}
    (h : ∀ piece ∈ pieces, ¬piece.IsToken) :
    m.resolvePieces pieces = .ok (pieces.flatMap TokenShape.style.spellPiece) := by
  induction pieces with
  | nil => rfl
  | cons piece pieces ih =>
      have hrest := ih fun other hother => h other (List.mem_cons_of_mem _ hother)
      cases piece with
      | char c =>
          rw [StyleMap.resolvePieces, hrest]
          rfl
      | token tag => exact absurd trivial (h _ List.mem_cons_self)

theorem not_mem_scan_style {out text tag : Text} (h : TokenShape.any.first? out = none)
    (htext : text <:+: out) : .token tag ∉ TokenShape.style.scan text := by
  intro hmem
  obtain ⟨-, after, rest, -, hread⟩ := TokenShape.exists_read?_of_mem_scan hmem
  have htag := (TokenShape.style_read?_eq_some_iff.1 hread).1
  refine not_infix_slotToken h (isPlaceholderName_stylePrefix_iff.2 htag) ?_
  rw [← spell_style]
  exact (TokenShape.infix_of_mem_scan hmem).trans htext

theorem bare_of_first?_eq_none {out : Text} (h : TokenShape.any.first? out = none) : Bare out where
  slot name hname := not_infix_slotToken h hname.isPlaceholderName
  tag tag htag := by
    rw [spell_style]
    exact not_infix_slotToken h (isPlaceholderName_style htag.isPlaceholderName)
  style text tag htag htext := by
    obtain ⟨before, after, hscan, -, -⟩ := TokenShape.first?_eq_some_iff.1 htag
    have hmem : .token tag ∈ TokenShape.style.scan text := by simp [hscan]
    exact not_mem_scan_style h htext hmem
  slots := by
    refine List.eq_nil_iff_forall_not_mem.2 fun name hname => ?_
    have hmem := (Template.token_of_slot (Template.mem_slots_iff.1 hname)).1
    refine not_infix_slotToken h (isPlaceholderName_of_mem_scan_quoted hmem) ?_
    have hquoted := TokenShape.infix_of_mem_scan hmem
    rw [spell_quoted] at hquoted
    exact (List.infix_append ['"'] (slotToken name) ['"']).trans hquoted
  resolve m := by
    have hpieces : ∀ piece ∈ TokenShape.style.scan out, ¬piece.IsToken := by
      intro piece hpiece htoken
      cases piece with
      | char c => exact htoken
      | token tag => exact not_mem_scan_style h (List.infix_refl out) hpiece
    rw [StyleMap.resolve, resolvePieces_of_forall_not_isToken m hpieces, TokenShape.spell_scan]

namespace Compositor

/-- Whatever is composed holds no placeholder. -/
theorem bare_of_compose {c : Compositor} {text out : Text}
    (h : c.compose (.ofText text) = .ok out) : Bare out := by
  obtain ⟨-, document, -, -, hfirst⟩ := compose_eq_ok_iff.1 h
  exact bare_of_first?_eq_none hfirst

/-- A classification and a content that both look like the edge of a token. -/
theorem bare_of_compose_underscores : ∃ c : Compositor,
    c.compose (.ofText "[\"__STYLE_A__Q_\", \"__S__\"]".toList) =
        .ok "[\"__Q_\", \"__lower__\"]".toList ∧ Bare "[\"__Q_\", \"__lower__\"]".toList := by
  let c : Compositor := ⟨⟨Dictionary.empty.insert "A".toList "__".toList⟩,
    ⟨Dictionary.empty.insert "S".toList (.text "__STYLE_A__lower__".toList)⟩⟩
  have hout : c.compose (.ofText "[\"__STYLE_A__Q_\", \"__S__\"]".toList) =
      .ok "[\"__Q_\", \"__lower__\"]".toList := ok_of_toOption (by decide +kernel)
  exact ⟨c, hout, bare_of_compose hout⟩

end Compositor

end Highlight
