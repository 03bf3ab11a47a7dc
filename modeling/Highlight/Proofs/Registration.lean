import Highlight.Proofs.Generator

/-!
What the documents of a language hang on: the slots that its last definition asked for, whether it
asked for a configuration, and how strictly values are checked in the contexts of those slots.
Neither the order of requests nor their repetition nor what was refused reaches a document or an
error, and neither do other languages and other contexts.
-/

namespace Highlight

namespace Language

inductive Request
  | slot (slot : Slot)
  | configuration
  deriving DecidableEq

def grant (language : Language) : Request → Except Error Language
  | .slot slot => language.addSlot slot
  | .configuration => .ok language.addConfiguration

def ofRequests (name : Text) (requests : List Request) : Language :=
  afterCalls grant ⟨name, [], false⟩ requests

variable {language : Language} {name : Text} {slot : Slot} {request : Request}
  {requests : List Request}

theorem afterCall_slot : afterCall grant language (.slot slot) =
    if slot = .wordPattern ∨ slot ∈ language.grammarSlots then language
    else { language with grammarSlots := language.grammarSlots ++ [slot] } := by
  rw [afterCall, grant, addSlot]
  by_cases hword : slot = .wordPattern
  · rw [if_pos hword, if_pos (.inl hword)]
    rfl
  · simp only [if_neg hword, or_iff_right hword]
    split <;> rfl

theorem name_afterCall : (afterCall grant language request).name = language.name := by
  cases request with
  | configuration => rfl
  | slot slot =>
      rw [afterCall_slot]
      split <;> rfl

theorem mem_grammarSlots_afterCall : slot ∈ (afterCall grant language request).grammarSlots ↔
    slot ∈ language.grammarSlots ∨ slot ≠ .wordPattern ∧ request = .slot slot := by
  cases request with
  | configuration => exact (or_iff_left fun h => by cases h.2).symm
  | slot asked =>
      rw [Request.slot.injEq, afterCall_slot]
      split
      · next hsame =>
          refine (or_iff_left_of_imp ?_).symm
          rintro ⟨hne, rfl⟩
          exact hsame.resolve_left hne
      · next hnew =>
          refine List.mem_append.trans (or_congr_right ?_)
          rw [List.mem_singleton, eq_comm]
          refine (and_iff_right_of_imp ?_).symm
          rintro rfl hword
          exact hnew (.inl hword)

theorem configuration_afterCall : (afterCall grant language request).configuration = true ↔
    language.configuration = true ∨ request = .configuration := by
  cases request with
  | configuration => exact iff_of_true rfl (.inr rfl)
  | slot slot =>
      have hsame : (afterCall grant language (.slot slot)).configuration =
          language.configuration := by
        rw [afterCall_slot]
        split <;> rfl
      rw [hsame]
      exact (or_iff_left fun h => by cases h).symm

theorem name_afterCalls : (afterCalls grant language requests).name = language.name := by
  induction requests generalizing language with
  | nil => rfl
  | cons request requests ih => rw [afterCalls_cons, ih, name_afterCall]

theorem mem_grammarSlots_afterCalls : slot ∈ (afterCalls grant language requests).grammarSlots ↔
    slot ∈ language.grammarSlots ∨ slot ≠ .wordPattern ∧ .slot slot ∈ requests := by
  induction requests generalizing language with
  | nil => exact (or_iff_left fun h => List.not_mem_nil h.2).symm
  | cons request requests ih =>
      rw [afterCalls_cons, ih, mem_grammarSlots_afterCall, or_assoc, ← and_or_left,
        List.mem_cons, eq_comm (a := request)]

theorem configuration_afterCalls :
    (afterCalls grant language requests).configuration = true ↔
      language.configuration = true ∨ .configuration ∈ requests := by
  induction requests generalizing language with
  | nil => exact (or_iff_left List.not_mem_nil).symm
  | cons request requests ih =>
      rw [afterCalls_cons, ih, configuration_afterCall, or_assoc, List.mem_cons,
        eq_comm (a := request)]

theorem name_ofRequests : (ofRequests name requests).name = name := name_afterCalls

/-- The slots of a grammar are those that were asked for, less the word pattern. -/
theorem mem_grammarSlots_ofRequests : slot ∈ (ofRequests name requests).grammarSlots ↔
    slot ≠ .wordPattern ∧ .slot slot ∈ requests :=
  mem_grammarSlots_afterCalls.trans (or_iff_right List.not_mem_nil)

theorem configuration_ofRequests : (ofRequests name requests).configuration = true ↔
    .configuration ∈ requests :=
  configuration_afterCalls.trans (or_iff_right nofun)

theorem mem_requests_of_mem_slots {context : PairContext} {kind : DocumentKind}
    (h : .pairs context ∈ (ofRequests name requests).slots kind) :
    .slot (.pairs context) ∈ requests := by
  cases kind with
  | grammar => exact (mem_grammarSlots_ofRequests.1 h).2
  | configuration =>
      rw [slots] at h
      split at h
      · cases List.mem_singleton.1 h
      · cases h

theorem mem_slots_congr {requests' : List Request}
    (hslots : ∀ slot, slot ≠ .wordPattern → (.slot slot ∈ requests ↔ .slot slot ∈ requests'))
    (hconfiguration : .configuration ∈ requests ↔ .configuration ∈ requests')
    (kind : DocumentKind) : slot ∈ (ofRequests name requests).slots kind ↔
      slot ∈ (ofRequests name requests').slots kind := by
  cases kind with
  | grammar =>
      rw [slots, slots, mem_grammarSlots_ofRequests, mem_grammarSlots_ofRequests]
      exact and_congr_right (hslots slot)
  | configuration =>
      have hflag : (ofRequests name requests).configuration =
          (ofRequests name requests').configuration := by
        rw [Bool.eq_iff_iff, configuration_ofRequests, configuration_ofRequests, hconfiguration]
      rw [slots, slots, hflag]

end Language

namespace Generator

variable {g g' : Generator} {slot : Slot} {slots slots' : List Slot} {name : Text}

/-- Content hangs on the tables and on the checks in the context of its slot. -/
theorem content_congr (hattributes : g.attributes = g'.attributes)
    (hvalidation : ∀ context, slot = .pairs context →
      g.validation.get context = g'.validation.get context) : g.content slot = g'.content slot := by
  cases slot with
  | pairs context =>
      simp only [content, fragments, hattributes, hvalidation context rfl]
  | expressions => rfl
  | wordPattern => rfl

theorem Provides.unique {s s' : Substitutions} (h : g.Provides slots s)
    (h' : g'.Provides slots' s') (hslots : ∀ slot, slot ∈ slots ↔ slot ∈ slots')
    (hcontent : ∀ slot ∈ slots, g.content slot = g'.content slot) : s = s' := by
  have hentries : s.entries = s'.entries := by
    refine Dictionary.eq_of_get?_eq fun name => Option.ext fun content => ?_
    refine (h name content).trans (Iff.trans ?_ (h' name content).symm)
    refine exists_congr fun slot => ?_
    rw [hslots slot]
    refine and_congr_right fun hmem => and_congr_right fun _ => ?_
    rw [hcontent slot ((hslots slot).2 hmem)]
  exact congrArg Substitutions.mk hentries

theorem document_congr (hstyles : g.styles = g'.styles)
    (hslots : ∀ slot, slot ∈ slots ↔ slot ∈ slots')
    (hcontent : ∀ slot ∈ slots, g.content slot = g'.content slot) (text : Text) :
    g.document slots text = g'.document slots' text := by
  obtain ⟨s, hs, hprovides⟩ := exists_provides g slots
  obtain ⟨s', hs', hprovides'⟩ := exists_provides g' slots'
  cases hprovides.unique hprovides' hslots hcontent
  rw [document, document, hs, hs', hstyles]

def ofDefinitions (attributes : AttributeTable) (styles : StyleMap)
    (validation : ValidationSettings) (definitions : List (Text × List Language.Request)) :
    Generator :=
  (definitions.map fun definition => Language.ofRequests definition.1 definition.2).foldl
    addLanguage (make attributes styles validation)

/-- The last of the definitions under a name. -/
def IsLast (definitions : List (Text × List Language.Request)) (name : Text)
    (requests : List Language.Request) : Prop :=
  ∃ before after, definitions = before ++ (name, requests) :: after ∧
    ∀ other ∈ after, other.1 ≠ name

theorem foldl_addLanguage (g : Generator) (languages : List Language) :
    languages.foldl addLanguage g =
      { g with languages := languages.foldl (fun d l => d.insert l.name l) g.languages } := by
  induction languages generalizing g with
  | nil => rfl
  | cons language languages ih => exact ih (g.addLanguage language)

theorem get?_foldl_of_ne {languages : List Language}
    (h : ∀ language ∈ languages, language.name ≠ name) (d : Dictionary Text Language) :
    (languages.foldl (fun d l => d.insert l.name l) d).get? name = d.get? name := by
  induction languages generalizing d with
  | nil => rfl
  | cons language languages ih =>
      obtain ⟨hne, hrest⟩ := List.forall_mem_cons.1 h
      rw [List.foldl_cons, ih hrest, Dictionary.get?_insert, if_neg hne]

variable {attributes : AttributeTable} {styles : StyleMap}
  {validation validation' : ValidationSettings}
  {definitions definitions' : List (Text × List Language.Request)}
  {requests requests' : List Language.Request}

theorem language_ofDefinitions (h : IsLast definitions name requests) :
    (ofDefinitions attributes styles validation definitions).language name =
      .ok (.ofRequests name requests) := by
  obtain ⟨before, after, rfl, hafter⟩ := h
  have hothers : ∀ language ∈ after.map fun definition =>
      Language.ofRequests definition.1 definition.2, language.name ≠ name := by
    intro language hmem
    obtain ⟨other, hother, rfl⟩ := List.mem_map.1 hmem
    rw [Language.name_ofRequests]
    exact hafter other hother
  have hfound : (ofDefinitions attributes styles validation
      (before ++ (name, requests) :: after)).languages.get? name =
        some (.ofRequests name requests) := by
    rw [ofDefinitions, foldl_addLanguage, List.map_append, List.foldl_append, List.map_cons,
      List.foldl_cons, get?_foldl_of_ne hothers, Dictionary.get?_insert,
      if_pos Language.name_ofRequests]
  simp only [Generator.language, hfound]

theorem exists_ofDefinitions_eq (attributes : AttributeTable) (styles : StyleMap)
    (validation : ValidationSettings) (definitions : List (Text × List Language.Request)) :
    ∃ languages, ofDefinitions attributes styles validation definitions =
      ⟨languages, attributes, styles, validation⟩ :=
  ⟨_, foldl_addLanguage _ _⟩

/-- A document of a registered language is made of the slots of its last definition. -/
theorem generate_of_isLast (h : IsLast definitions name requests) (kind : DocumentKind)
    (text : Text) :
    (ofDefinitions attributes styles validation definitions).generate kind name text =
      ((ofDefinitions attributes styles validation definitions).document
        ((Language.ofRequests name requests).slots kind) text).mapError (Error.inLanguage name) := by
  rw [generate, language_ofDefinitions h]
  rfl

/-- A document of a language is a matter of the language alone. With the same tables, the same slots
asked for in its last definition, the same word on a configuration and the same checks in the
contexts of those slots, generation comes to the same document or the same error, whatever else was
asked for, registered or set. -/
theorem generate_ofDefinitions (hlast : IsLast definitions name requests)
    (hlast' : IsLast definitions' name requests')
    (hslots : ∀ slot, slot ≠ .wordPattern → (.slot slot ∈ requests ↔ .slot slot ∈ requests'))
    (hconfiguration : .configuration ∈ requests ↔ .configuration ∈ requests')
    (hvalidation : ∀ context, .slot (.pairs context) ∈ requests →
      validation.get context = validation'.get context) (kind : DocumentKind) (text : Text) :
    (ofDefinitions attributes styles validation definitions).generate kind name text =
      (ofDefinitions attributes styles validation' definitions').generate kind name text := by
  obtain ⟨languages, hg⟩ := exists_ofDefinitions_eq attributes styles validation definitions
  obtain ⟨languages', hg'⟩ := exists_ofDefinitions_eq attributes styles validation' definitions'
  rw [generate_of_isLast hlast, generate_of_isLast hlast', hg, hg']
  refine congrArg (Except.mapError (Error.inLanguage name)) (document_congr ?_ ?_ ?_ text)
  · rfl
  · exact fun slot => Language.mem_slots_congr hslots hconfiguration kind
  · intro slot hmem
    refine content_congr ?_ fun context heq => ?_
    · rfl
    · subst heq
      exact hvalidation context (Language.mem_requests_of_mem_slots hmem)

/-- A language defined once, and one of the same name defined among others in place of an earlier
one, with slots in another order and a check that is set otherwise where it does not matter. -/
theorem generate_ofDefinitions_reordered :
    (ofDefinitions .empty .empty {} [("a".toList, [.slot (.pairs .list), .slot .wordPattern,
        .slot .expressions, .slot (.pairs .list)])]).generate .grammar "a".toList "[]".toList =
      .error (.language "a".toList
        (.malformedTemplate (.missingSlot "__EXPRESSION_PATTERNS__".toList))) ∧
    (ofDefinitions .empty .empty ⟨.strict, .lenient, .lenient⟩
        [("a".toList, [.slot (.pairs .group)]), ("b".toList, []),
          ("a".toList, [.slot .expressions, .slot (.pairs .list)]),
          ("c".toList, [.configuration])]).generate .grammar "a".toList "[]".toList =
      .error (.language "a".toList
        (.malformedTemplate (.missingSlot "__EXPRESSION_PATTERNS__".toList))) := by
  let asked : List Language.Request :=
    [.slot (.pairs .list), .slot .wordPattern, .slot .expressions, .slot (.pairs .list)]
  let reordered : List Language.Request := [.slot .expressions, .slot (.pairs .list)]
  have hlast : IsLast [("a".toList, asked)] "a".toList asked := ⟨[], [], rfl, nofun⟩
  have hlast' : IsLast [("a".toList, [.slot (.pairs .group)]), ("b".toList, []),
      ("a".toList, reordered), ("c".toList, [.configuration])] "a".toList reordered := by
    refine ⟨[_, _], [("c".toList, [.configuration])], rfl, fun other hmem => ?_⟩
    rw [List.mem_singleton.1 hmem]
    decide
  have hslots (slot : Slot) (hne : slot ≠ .wordPattern) :
      .slot slot ∈ asked ↔ .slot slot ∈ reordered := by
    cases slot with
    | pairs context => cases context <;> decide
    | expressions => decide
    | wordPattern => exact absurd rfl hne
  have hvalidation (context : PairContext) (hmem : .slot (.pairs context) ∈ asked) :
      ValidationSettings.get {} context =
        ValidationSettings.get ⟨.strict, .lenient, .lenient⟩ context := by
    cases context with
    | group => exact absurd hmem (by decide)
    | _ => rfl
  have hfirst : (ofDefinitions .empty .empty {} [("a".toList, asked)]).generate .grammar
      "a".toList "[]".toList = .error (.language "a".toList
        (.malformedTemplate (.missingSlot "__EXPRESSION_PATTERNS__".toList))) := by
    decide +kernel
  exact ⟨hfirst, (generate_ofDefinitions hlast hlast' hslots (by decide) hvalidation .grammar
    "[]".toList).symm.trans hfirst⟩

end Generator

end Highlight
