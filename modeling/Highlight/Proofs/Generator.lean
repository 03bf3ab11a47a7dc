import Highlight.Proofs.Pair.Tokenless
import Highlight.Proofs.Production.Causes
import Highlight.Proofs.Template.Namespaces
import Highlight.Proofs.Template.Settled

/-!
Which templates a generator makes documents of. As far as the tables hold nothing that looks like a
placeholder, neither does what is made of them; content never makes generation fail, so that the
template alone decides.
-/

namespace Highlight

namespace Slot

theorem ofName?_name (slot : Slot) : ofName? slot.name = some slot := by
  cases slot with
  | pairs context => cases context <;> rfl
  | _ => rfl

theorem name_injective : Function.Injective name := by
  intro slot other h
  have hfound := ofName?_name slot
  rw [h, ofName?_name] at hfound
  exact (Option.some.inj hfound).symm

theorem name_valid (slot : Slot) : IsSlot slot.name := by
  cases slot with
  | pairs context => cases context <;> exact ⟨by decide, by decide⟩
  | _ => exact ⟨by decide, by decide⟩

end Slot

namespace Generator

variable {g : Generator} {slot : Slot} {slots : List Slot}

theorem plain_expressionRules : (Content.rules Builtin.expressionRules).Plain := by
  have hall : Builtin.expressionRules.all
      (fun rule => (TokenShape.any.first? rule.pattern).isNone) = true := by decide +kernel
  intro rule hmem
  exact tokenless_iff.2 (Option.isNone_iff_eq_none.1 (List.all_eq_true.1 hall rule hmem))

theorem plain_of_content {content : Content} (htable : g.attributes.Checked)
    (hgrammars : ∀ a ∈ g.attributes.attributes, Tokenless a.grammar)
    (h : g.content slot = .ok content) : content.Plain ∧ content ≠ .rules [] := by
  cases slot with
  | pairs context =>
      obtain ⟨fragments, hfragments, rfl⟩ := map_eq_ok_iff.1 h
      obtain ⟨pair, hpair, rfl⟩ := map_eq_ok_iff.1 hfragments
      constructor
      · intro rule hrule
        obtain ⟨fragment, hmem, rfl⟩ := List.mem_map.1 hrule
        exact Fragment.tokenless_synthesize (PairContext.plain_pairGrammar hpair) htable hgrammars hmem
      · intro heq
        exact Fragment.synthesize_ne_nil _ _ _ (List.map_eq_nil_iff.1 (Content.rules.inj heq))
  | expressions =>
      cases h
      refine ⟨plain_expressionRules, fun heq => ?_⟩
      cases heq
  | wordPattern =>
      cases h
      refine ⟨tokenless_iff.2 (by decide +kernel), fun heq => ?_⟩
      cases heq

theorem insert_slot (s : Substitutions) (slot : Slot) (content : Content) :
    s.insert slot.name content = .ok ⟨s.entries.insert slot.name content⟩ :=
  Substitutions.insert_eq_ok_iff.2 ⟨slot.name_valid, rfl⟩

theorem exists_content_of_name {content : Content} :
    (∃ other ∈ slots, other.name = slot.name ∧ g.content other = .ok content) ↔
      slot ∈ slots ∧ g.content slot = .ok content := by
  constructor
  · rintro ⟨other, hmem, hname, hcontent⟩
    cases Slot.name_injective hname
    exact ⟨hmem, hcontent⟩
  · rintro ⟨hmem, hcontent⟩
    exact ⟨slot, hmem, rfl, hcontent⟩

theorem exists_fillSlots (g : Generator) (s : Substitutions) (slots : List Slot) :
    ∃ s', g.fillSlots s slots = .ok s' ∧ ∀ name content, s'.get? name = some content ↔
      (∃ slot ∈ slots, slot.name = name ∧ g.content slot = .ok content) ∨
        name ∉ slots.map Slot.name ∧ s.get? name = some content := by
  induction slots generalizing s with
  | nil => exact ⟨s, rfl, fun name content => by simp⟩
  | cons slot slots ih =>
      obtain ⟨made, hmade⟩ := exists_content g slot
      obtain ⟨s', hs', hget⟩ := ih ⟨s.entries.insert slot.name made⟩
      refine ⟨s', ?_, fun name content => ?_⟩
      · exact bind_eq_ok_iff.2 ⟨made, hmade, bind_eq_ok_iff.2 ⟨_, insert_slot s slot made, hs'⟩⟩
      · rw [hget, Substitutions.get?, Dictionary.get?_insert]
        by_cases hname : slot.name = name
        · -- the slot may be among the others as well, and then gets the same content again
          subst hname
          rw [if_pos rfl, exists_content_of_name, exists_content_of_name,
            List.mem_map_of_injective Slot.name_injective,
            List.mem_map_of_injective Slot.name_injective, hmade, Except.ok.injEq,
            Option.some.injEq, List.mem_cons]
          by_cases hmem : slot ∈ slots <;> simp [hmem]
        · rw [if_neg hname, List.map_cons, List.mem_cons, not_or]
          have hfirst : ¬(slot.name = name ∧ g.content slot = .ok content) :=
            fun hall => hname hall.1
          simp only [List.mem_cons, exists_eq_or_imp, hfirst, false_or, Ne.symm hname,
            not_false_eq_true, true_and]
          rfl

/-- The content of each of the slots, and nothing else. -/
def Provides (g : Generator) (slots : List Slot) (s : Substitutions) : Prop :=
  ∀ name content, s.get? name = some content ↔
    ∃ slot ∈ slots, slot.name = name ∧ g.content slot = .ok content

namespace Provides

variable {s : Substitutions}

theorem mem_names_iff (h : g.Provides slots s) {name : Text} :
    name ∈ s.names ↔ name ∈ slots.map Slot.name := by
  rw [List.mem_map]
  constructor
  · intro hmem
    obtain ⟨content, hfound⟩ := Dictionary.mem_keys_iff.1 hmem
    obtain ⟨slot, hslot, hname, -⟩ := (h name content).1 hfound
    exact ⟨slot, hslot, hname⟩
  · rintro ⟨slot, hslot, hname⟩
    obtain ⟨content, hmade⟩ := exists_content g slot
    exact Dictionary.mem_keys_iff.2 ⟨content, (h name content).2 ⟨slot, hslot, hname, hmade⟩⟩

theorem settles (h : g.Provides slots s) (htable : g.attributes.Checked)
    (hgrammars : ∀ a ∈ g.attributes.attributes, Tokenless a.grammar) (hcovers : g.styles.Covers)
    {name : Text} {content : Content} (hfound : s.get? name = some content) :
    content ≠ .rules [] ∧ g.styles.Settles content.render := by
  obtain ⟨slot, -, -, hmade⟩ := (h name content).1 hfound
  obtain ⟨hplain, hne⟩ := plain_of_content htable hgrammars hmade
  exact ⟨hne, Content.settles_render hcovers hplain⟩

end Provides

theorem exists_provides (g : Generator) (slots : List Slot) :
    ∃ s, g.fillSlots .empty slots = .ok s ∧ g.Provides slots s := by
  obtain ⟨s, hs, hget⟩ := exists_fillSlots g .empty slots
  refine ⟨s, hs, fun name content => ?_⟩
  rw [hget]
  refine or_iff_left fun hempty => ?_
  cases hempty.2

/-- Documents are composed of content that is provided for all slots before. -/
theorem exists_document_eq (hstyles : g.styles.Checked) (slots : List Slot) :
    ∃ s, g.Provides slots s ∧
      ∀ text, g.document slots text = Compositor.compose ⟨g.styles, s⟩ (.ofText text) := by
  obtain ⟨s, hs, hprovides⟩ := exists_provides g slots
  have hmake : Compositor.make g.styles s = .ok ⟨g.styles, s⟩ := by
    refine Compositor.make_of_checked hstyles fun name hmem => ?_
    obtain ⟨slot, -, rfl⟩ := List.mem_map.1 (hprovides.mem_names_iff.1 hmem)
    exact slot.name_valid
  refine ⟨s, hprovides, fun text => ?_⟩
  simp only [document, hs, hmake, bind, Except.bind]

/-- What a template has to be like for a document whose slots are the given ones. -/
structure Suits (m : StyleMap) (slots : List Text) (template : Template) : Prop where
  slots : ∀ name, name ∈ template.slots ↔ name ∈ slots
  mapped : ∀ s, .text s ∈ template.segments → ∀ tag, .token tag ∈ TokenShape.style.scan s →
    ∃ classification, m.classification tag = some classification
  tokenless : ∀ s, .text s ∈ template.segments → ∀ out, m.resolve s = .ok out → Tokenless out

theorem suits_iff {m : StyleMap} {slots : List Text} {template : Template} :
    Suits m slots template ↔ (∀ name, name ∈ template.slots ↔ name ∈ slots) ∧
      ∀ s, .text s ∈ template.segments → m.Settles s := by
  constructor
  · intro h
    exact ⟨h.slots, fun s hs => StyleMap.settles_iff.2 ⟨h.mapped s hs, h.tokenless s hs⟩⟩
  · rintro ⟨hslots, htexts⟩
    exact ⟨hslots, fun s hs => (StyleMap.settles_iff.1 (htexts s hs)).1,
      fun s hs => (StyleMap.settles_iff.1 (htexts s hs)).2⟩

theorem exists_document_iff (htable : g.attributes.Checked) (hstyles : g.styles.Checked)
    (hgrammars : ∀ a ∈ g.attributes.attributes, Tokenless a.grammar) (hcovers : g.styles.Covers)
    (slots : List Slot) (text : Text) : (∃ out, g.document slots text = .ok out) ↔
      Suits g.styles (slots.map Slot.name) (.ofText text) := by
  obtain ⟨s, hprovides, hdocument⟩ := exists_document_eq hstyles slots
  have hsettles {name : Text} {content : Content} (hfound : s.get? name = some content) :=
    hprovides.settles htable hgrammars hcovers hfound
  have hsubstantial : Compositor.Substantial ⟨g.styles, s⟩ := by
    intro name hfound
    exact (hsettles hfound).1 rfl
  rw [hdocument, Compositor.exists_compose_iff hsubstantial (alternating_ofText text), suits_iff]
  constructor
  · rintro ⟨hused, hsegments⟩
    refine ⟨fun name => ⟨fun hmem => ?_, fun hmem => hused name (hprovides.mem_names_iff.2 hmem)⟩,
      fun t hmem => ?_⟩
    · obtain ⟨piece, hpiece, -⟩ := hsegments _ (Template.mem_slots_iff.1 hmem)
      obtain ⟨content, hfound, -⟩ := Option.map_eq_some_iff.1 hpiece
      exact hprovides.mem_names_iff.1 (Dictionary.mem_keys_iff.2 ⟨content, hfound⟩)
    · obtain ⟨piece, hpiece, hpieceSettles⟩ := hsegments _ hmem
      cases hpiece
      exact hpieceSettles
  · rintro ⟨hslots, htexts⟩
    refine ⟨fun name hmem => (hslots name).2 (hprovides.mem_names_iff.1 hmem),
      fun segment hmem => ?_⟩
    cases segment with
    | text t => exact ⟨t, rfl, htexts t hmem⟩
    | slot name =>
        obtain ⟨content, hfound⟩ := Dictionary.mem_keys_iff.1
          (hprovides.mem_names_iff.2 ((hslots name).1 (Template.mem_slots_iff.2 hmem)))
        exact ⟨content.render, Option.map_eq_some_iff.2 ⟨content, hfound, rfl⟩,
          (hsettles hfound).2⟩

/-- Content never makes generation fail. As long as grammars and the classifications of rules hold
nothing like a placeholder, a template gives a document just where it has the slots of the language,
all its style tags are mapped, and its text holds nothing like a placeholder once they are resolved;
whatever goes wrong is named for the language. -/
theorem generate_iff {attributes styles : List (Text × Text)} {name : Text} {language : Language}
    (hattributes : AttributeTable.ofPairs attributes = .ok g.attributes)
    (hstyles : StyleMap.ofPairs styles = .ok g.styles)
    (hgrammars : ∀ a ∈ g.attributes.attributes, Tokenless a.grammar) (hcovers : g.styles.Covers)
    (hlanguage : g.languages.get? name = some language) (text : Text) :
    ((∃ out, g.generate .grammar name text = .ok out) ↔
      Suits g.styles (language.grammarSlots.map Slot.name) (.ofText text)) ∧
    ((∃ out, g.generate .configuration name text = .ok out) ↔
      Suits g.styles (if language.configuration then ["WORD_PATTERN".toList] else [])
        (.ofText text)) ∧
    ∀ kind e, g.generate kind name text = .error e → ∃ cause, e = .language name cause := by
  have hkind (kind : DocumentKind) : (∃ out, g.generate kind name text = .ok out) ↔
      Suits g.styles ((language.slots kind).map Slot.name) (.ofText text) := by
    rw [← exists_document_iff (AttributeTable.checked_of_ofPairs hattributes)
      (StyleMap.checked_of_ofPairs hstyles) hgrammars hcovers]
    refine exists_congr fun out => ?_
    simp only [generate, mapError_eq_ok_iff, Generator.language, hlanguage, bind, Except.bind]
  refine ⟨hkind .grammar, ?_, fun kind e he => ?_⟩
  · have hslots : (language.slots .configuration).map Slot.name =
        if language.configuration then ["WORD_PATTERN".toList] else [] := by
      rw [Language.slots]
      split <;> rfl
    rw [← hslots]
    exact hkind .configuration
  · obtain ⟨cause, rfl, -⟩ := generate_eq_error he
    exact ⟨cause, rfl⟩

/-- One slot, as the grammar of a language needs it and its configuration does not. -/
theorem generate_iff_of_slot : ∃ g : Generator,
    (∃ out, g.generate .grammar "l".toList "[\"__PROP_LIST_PATTERNS__\"]".toList = .ok out) ∧
      ∃ cause, g.generate .configuration "l".toList "[\"__PROP_LIST_PATTERNS__\"]".toList =
        .error (.language "l".toList cause) := by
  let scope := "x.y".toList
  let pairs := StyleTag.all.map fun tag => (tag.name, scope)
  let g : Generator :=
    ⟨Dictionary.empty.insert "l".toList ⟨"l".toList, [.pairs .list], true⟩,
      ⟨[⟨"side".toList, "left|__top".toList, 0⟩]⟩,
      ⟨pairs.foldl (fun entries pair => entries.insert pair.1 pair.2) .empty⟩, {}⟩
  have hattributes : AttributeTable.ofPairs [("side".toList, "left|__top".toList)] =
      .ok g.attributes := ok_of_toOption (by decide +kernel)
  have hstyles : StyleMap.ofPairs pairs = .ok g.styles := rfl
  have hgrammars : ∀ a ∈ g.attributes.attributes, Tokenless a.grammar := by
    intro a ha
    cases List.mem_singleton.1 ha
    exact tokenless_iff.2 (by decide +kernel)
  have hcovers : g.styles.Covers := by
    intro tag
    exact ⟨scope, by cases tag <;> rfl, .of_not_mem (by decide)⟩
  have hlanguage : g.languages.get? "l".toList = some ⟨"l".toList, [.pairs .list], true⟩ := rfl
  obtain ⟨hgrammar, hconfiguration, herror⟩ := generate_iff hattributes hstyles hgrammars hcovers
    hlanguage "[\"__PROP_LIST_PATTERNS__\"]".toList
  have hsegments : (Template.ofText "[\"__PROP_LIST_PATTERNS__\"]".toList).segments =
      [.text "[".toList, .slot "PROP_LIST_PATTERNS".toList, .text "]".toList] := by
    decide +kernel
  have hslots : (Template.ofText "[\"__PROP_LIST_PATTERNS__\"]".toList).slots =
      ["PROP_LIST_PATTERNS".toList] := by
    rw [Template.slots, hsegments]
    rfl
  have htexts (s : Text)
      (hs : .text s ∈ (Template.ofText "[\"__PROP_LIST_PATTERNS__\"]".toList).segments) :
      g.styles.Settles s := by
    rw [hsegments] at hs
    have hs' : s = "[".toList ∨ s = "]".toList := by simpa using hs
    rcases hs' with rfl | rfl <;> exact StyleMap.settles_of_not_mem (by decide)
  refine ⟨g, ?_, ?_⟩
  · refine hgrammar.2 (suits_iff.2 ⟨fun name => ?_, htexts⟩)
    rw [hslots]
    rfl
  · cases houtcome : g.generate .configuration "l".toList
        "[\"__PROP_LIST_PATTERNS__\"]".toList with
    | ok out =>
        have hword := (hconfiguration.1 ⟨out, houtcome⟩).slots "PROP_LIST_PATTERNS".toList
        rw [hslots] at hword
        exact absurd (hword.1 List.mem_cons_self) (by decide)
    | error e =>
        obtain ⟨cause, rfl⟩ := herror _ _ houtcome
        exact ⟨cause, rfl⟩

end Generator

end Highlight
