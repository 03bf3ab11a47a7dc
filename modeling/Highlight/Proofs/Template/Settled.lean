import Highlight.Proofs.Json.Printed
import Highlight.Proofs.Rule
import Highlight.Proofs.Template.Leftover
import Highlight.Proofs.Tokenless

/-!
What generated content comes to. A text settles if its style tags are resolved and nothing like a
placeholder is left; whatever is put together from such texts, with a character between them that is
in no token, settles as well. So rules settle as far as their patterns and their tags do, and so does
the content of a slot.
-/

namespace Highlight

theorem Json.escape_join (separator : Text) (texts : List Text) :
    escape (Text.join separator texts) = Text.join (escape separator) (texts.map escape) := by
  induction texts with
  | nil => rfl
  | cons first texts ih =>
      cases texts with
      | nil => simp only [Text.join, List.map_singleton, List.intercalate_singleton]
      | cons second texts =>
          rw [Text.join, List.intercalate_cons_cons, escape, List.flatMap_append,
            List.flatMap_append]
          exact (congrArg (escape first ++ escape separator ++ ·) ih).trans
            List.intercalate_cons_cons.symm

namespace StyleMap

/-- Style tags of the text are resolved, and then nothing looks like a placeholder. -/
def Settles (m : StyleMap) (text : Text) : Prop :=
  ∃ out, m.resolve text = .ok out ∧ Tokenless out

/-- Every tag that a rule can carry has a classification in which nothing looks like a
placeholder. -/
def Covers (m : StyleMap) : Prop :=
  ∀ tag : StyleTag, ∃ classification, m.classification tag.name = some classification ∧
    Tokenless classification

variable {m : StyleMap} {b : Char} {front rest more text : Text} {texts : List Text}

theorem settles_of_tokenless (h : Tokenless text) : m.Settles text :=
  ⟨text, (bare_of_first?_eq_none (tokenless_iff.1 h)).resolve m, h⟩

theorem settles_of_not_mem (h : '_' ∉ text) : m.Settles text :=
  settles_of_tokenless (.of_not_mem h)

/-- Tags are resolved just where each of them has a classification. -/
theorem exists_resolve_iff : (∃ out, m.resolve text = .ok out) ↔
    ∀ tag, .token tag ∈ TokenShape.style.scan text →
      ∃ classification, m.classification tag = some classification := by
  constructor
  · rintro ⟨out, hout⟩ tag hmem
    cases hmapped : m.classification tag with
    | some classification => exact ⟨classification, rfl⟩
    | none =>
        have hunmapped : m.Unmapped (.token tag) := hmapped
        obtain ⟨piece, hfirst⟩ := exists_firstOf ⟨_, hmem, hunmapped⟩
        cases piece with
        | char c =>
            obtain ⟨before, after, -, hc, -⟩ := hfirst
            exact absurd hc id
        | token first =>
            have herror := (resolvePieces_eq_error_iff m).2 ⟨first, hfirst, rfl⟩
            cases herror.symm.trans hout
  · intro h
    cases hresolve : m.resolve text with
    | ok out => exact ⟨out, rfl⟩
    | error e =>
        obtain ⟨tag, ⟨before, after, hscan, hunmapped, -⟩, -⟩ :=
          (resolvePieces_eq_error_iff m).1 hresolve
        obtain ⟨classification, hmapped⟩ := h tag (by simp [hscan])
        cases hmapped.symm.trans hunmapped

theorem settles_iff : m.Settles text ↔
    (∀ tag, .token tag ∈ TokenShape.style.scan text →
      ∃ classification, m.classification tag = some classification) ∧
    ∀ out, m.resolve text = .ok out → Tokenless out := by
  rw [← exists_resolve_iff]
  constructor
  · rintro ⟨out, hout, htokenless⟩
    refine ⟨⟨out, hout⟩, fun other hother => ?_⟩
    cases hout.symm.trans hother
    exact htokenless
  · rintro ⟨⟨out, hout⟩, htokenless⟩
    exact ⟨out, hout, htokenless out hout⟩

namespace Settles

theorem append_break (hb : isTokenChar b = false) (hfront : m.Settles front)
    (hrest : m.Settles rest) : m.Settles (front ++ b :: rest) := by
  obtain ⟨first, hfirst, hfront⟩ := hfront
  obtain ⟨last, hlast, hrest⟩ := hrest
  exact ⟨first ++ b :: last, (resolve_break_eq_ok_iff hb).2 ⟨first, last, hfirst, hlast, rfl⟩,
    (Tokenless.break_iff hb).2 ⟨hfront, hrest⟩⟩

theorem append_of_not_mem (hfront : '_' ∉ front) (hrest : m.Settles rest) :
    m.Settles (front ++ rest) := by
  obtain ⟨last, hlast, hrest⟩ := hrest
  refine ⟨front ++ last, ?_, (Tokenless.append_of_not_mem hfront).2 hrest⟩
  rw [resolve_append_of_not_mem hfront, hlast]
  rfl

theorem join (hb : isTokenChar b = false) (hmore : '_' ∉ more)
    (h : ∀ text ∈ texts, m.Settles text) : m.Settles (Text.join (b :: more) texts) := by
  induction texts with
  | nil => exact settles_of_not_mem List.not_mem_nil
  | cons first texts ih =>
      obtain ⟨hfirst, htexts⟩ := List.forall_mem_cons.1 h
      cases texts with
      | nil =>
          rw [Text.join, List.intercalate_singleton]
          exact hfirst
      | cons second texts =>
          rw [Text.join, List.intercalate_cons_cons, List.append_assoc]
          exact hfirst.append_break hb ((ih htexts).append_of_not_mem hmore)

theorem quote (h : m.Settles (Json.escape text)) : m.Settles (Json.quote text) := by
  have hopening : '_' ∉ ['"'] := by decide
  have hclosing : m.Settles [] := settles_of_not_mem List.not_mem_nil
  exact (h.append_break (by decide) hclosing).append_of_not_mem hopening

theorem block {left right : Char} (hleft : left ≠ '_') (hright : right ≠ '_') (level : Nat)
    (h : ∀ text ∈ texts, m.Settles text) : m.Settles (Json.block left right level texts) := by
  have hspaces (count : Nat) : '_' ∉ List.replicate count ' ' := by
    intro hmem
    cases List.eq_of_mem_replicate hmem
  have hnewline (level : Nat) : '_' ∉ Json.newline level := by
    rw [Json.newline, List.mem_cons, not_or]
    exact ⟨by decide, hspaces _⟩
  rw [Json.block]
  split
  · exact settles_of_not_mem (by simp [hleft.symm, hright.symm])
  · have hitems : m.Settles (Text.join (',' :: Json.newline (level + 1)) texts) :=
      .join (by decide) (hnewline _) h
    have hend : m.Settles (List.replicate (2 * level) ' ' ++ [right]) :=
      settles_of_not_mem (by simp [hright.symm])
    have hinner := (hitems.append_break (b := '\n') (by decide) hend).append_of_not_mem
      (hnewline (level + 1))
    have hleft' : '_' ∉ [left] := by simp [hleft.symm]
    simpa [Json.newline] using hinner.append_of_not_mem hleft'

theorem object {fields : List (Text × Json)} (hkeys : ∀ field ∈ fields, '_' ∉ field.1)
    (h : ∀ field ∈ fields, ∀ level, m.Settles (field.2.pretty level)) (level : Nat) :
    m.Settles ((Json.object fields).pretty level) := by
  rw [Json.pretty, Json.prettyFields_eq_map]
  refine .block (by decide) (by decide) level fun text hmem => ?_
  obtain ⟨field, hfield, rfl⟩ := List.mem_map.1 hmem
  have hkey : m.Settles (Json.quote field.1) :=
    .quote (settles_of_tokenless (Tokenless.of_not_mem (hkeys field hfield)).escape)
  have hblank : '_' ∉ [' '] := by decide
  exact hkey.append_break (by decide) ((h field hfield (level + 1)).append_of_not_mem hblank)

theorem placeholder (hm : m.Covers) (tag : StyleTag) : m.Settles tag.placeholder := by
  obtain ⟨classification, hmapped, htokenless⟩ := hm tag
  exact ⟨classification, (resolve_spell_eq_ok_iff tag.spells_name).2 hmapped, htokenless⟩

theorem placeholders (hm : m.Covers) (tags : List StyleTag) :
    m.Settles (Json.escape (StyleTag.placeholders tags)) := by
  have hescape (tag : StyleTag) : Json.escape tag.placeholder = tag.placeholder := by
    cases tag <;> decide +kernel
  have hjoin : Json.escape (StyleTag.placeholders tags) = StyleTag.placeholders tags := by
    rw [StyleTag.placeholders, Json.escape_join, List.map_map]
    exact congrArg _ (List.map_congr_left fun tag _ => hescape tag)
  rw [hjoin]
  refine .join (by decide) List.not_mem_nil fun text hmem => ?_
  obtain ⟨tag, -, rfl⟩ := List.mem_map.1 hmem
  exact .placeholder hm tag

end Settles

end StyleMap

theorem Rule.settles_captureField {m : StyleMap} (hm : m.Covers) (entry : Nat × List StyleTag)
    (level : Nat) : m.Settles ((captureField entry).2.pretty level) := by
  have hkey : '_' ∉ "name".toList := by decide
  refine .object (fun field hmem => ?_) (fun field hmem level => ?_) level
  · rw [List.mem_singleton.1 hmem]
    exact hkey
  · cases List.mem_singleton.1 hmem
    rw [Json.pretty]
    exact .quote (.placeholders hm entry.2)

theorem Rule.settles_pretty {m : StyleMap} (hm : m.Covers) {rule : Rule}
    (h : Tokenless rule.pattern) : m.Settles rule.pretty := by
  rw [pretty, Rule.toJson_eq]
  refine .object (fun field hmem => ?_) (fun field hmem level => ?_) 0
  · rcases mem_fields_iff.1 hmem with ⟨hkey, -⟩ | ⟨hkey, -⟩ | ⟨hkey, -⟩
    all_goals
      rw [hkey]
      decide
  · obtain ⟨key, value⟩ := field
    rcases mem_fields_iff.1 hmem with ⟨-, tags, -, rfl⟩ | ⟨-, rfl⟩ | ⟨-, -, rfl⟩
    · rw [Json.pretty]
      exact .quote (.placeholders hm tags)
    · rw [Json.pretty]
      exact .quote (StyleMap.settles_of_tokenless h.escape)
    · refine .object (fun entry hentry => ?_) (fun entry hentry level => ?_) level
      · obtain ⟨capture, -, rfl⟩ := List.mem_map.1 hentry
        intro hunderscore
        cases Nat.isDigit_of_mem_toDigits (by decide) (by decide) hunderscore
      · obtain ⟨capture, -, rfl⟩ := List.mem_map.1 hentry
        exact settles_captureField hm capture level

namespace Content

def Plain : Content → Prop
  | rules list => ∀ rule ∈ list, Tokenless rule.pattern
  | text s => Tokenless s

theorem settles_render {m : StyleMap} (hm : m.Covers) {content : Content} (h : content.Plain) :
    m.Settles content.render := by
  cases content with
  | text s => exact .quote (StyleMap.settles_of_tokenless (Tokenless.escape h))
  | rules list =>
      have hnewline : '_' ∉ ['\n'] := by decide
      refine .join (b := ',') (by decide) hnewline fun text hmem => ?_
      obtain ⟨rule, hrule, rfl⟩ := List.mem_map.1 hmem
      exact rule.settles_pretty hm (h rule hrule)

end Content
namespace Compositor

variable {c : Compositor} {template : Template} {segments : List Segment}

theorem exists_pieces_iff : (∃ pieces resolved : List Text, segments.map c.piece? = pieces.map some ∧
      pieces.map c.styles.resolve = resolved.map .ok ∧
      ∀ piece ∈ resolved, TokenShape.any.first? piece = none) ↔
    ∀ segment ∈ segments, ∃ piece, c.piece? segment = some piece ∧ c.styles.Settles piece := by
  induction segments with
  | nil => exact ⟨fun _ => nofun, fun _ => ⟨[], [], rfl, rfl, nofun⟩⟩
  | cons segment segments ih =>
      rw [List.forall_mem_cons, ← ih]
      constructor
      · rintro ⟨pieces, resolved, hpieces, hresolved, hnone⟩
        obtain ⟨piece, pieces, rfl, hpiece, hrest⟩ := List.map_eq_cons_iff.1 hpieces.symm
        obtain ⟨out, resolved, rfl, hout, hrest'⟩ := List.map_eq_cons_iff.1 hresolved.symm
        rw [List.forall_mem_cons] at hnone
        exact ⟨⟨piece, hpiece.symm, out, hout.symm, tokenless_iff.2 hnone.1⟩,
          pieces, resolved, hrest.symm, hrest'.symm, hnone.2⟩
      · rintro ⟨⟨piece, hpiece, out, hout, htokenless⟩, pieces, resolved, hrest, hrest', hnone⟩
        refine ⟨piece :: pieces, out :: resolved, ?_, ?_, ?_⟩
        · rw [List.map_cons, List.map_cons, hpiece, hrest]
        · rw [List.map_cons, List.map_cons, hout, hrest']
        · exact List.forall_mem_cons.2 ⟨tokenless_iff.1 htokenless, hnone⟩

/-- A template is composed if all content is used and each of its segments, filled, settles. -/
theorem exists_compose_iff (hc : c.Substantial) (h : Alternating template.segments) :
    (∃ out, c.compose template = .ok out) ↔
      (∀ name ∈ c.substitutions.names, name ∈ template.slots) ∧
      ∀ segment ∈ template.segments,
        ∃ piece, c.piece? segment = some piece ∧ c.styles.Settles piece := by
  have hused : (∀ name, ¬c.Unused template name) ↔
      ∀ name ∈ c.substitutions.names, name ∈ template.slots := by
    simp only [Unused, not_and, not_not]
  rw [← exists_pieces_iff, ← hused]
  constructor
  · rintro ⟨out, hout⟩
    rcases piecewise_or_firstFault hc h with ⟨other, -, hother⟩ | ⟨e, he, -⟩
    · obtain ⟨hused, pieces, resolved, hpieces, hresolved, hnone, -⟩ := hother
      exact ⟨hused, pieces, resolved, hpieces, hresolved, hnone⟩
    · cases hout.symm.trans he
  · rintro ⟨hused, pieces, resolved, hpieces, hresolved, hnone⟩
    exact ⟨resolved.flatten, compose_of_piecewise hc h
      ⟨hused, pieces, resolved, hpieces, hresolved, hnone, rfl⟩⟩

end Compositor

end Highlight
