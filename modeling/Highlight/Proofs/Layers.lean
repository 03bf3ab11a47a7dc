import Highlight.Proofs.Arguments
import Highlight.Proofs.Settings

/-!
Settings in layers: what the command line says, under it what the settings file says, and under both
the defaults. Which command lines are accepted, and what they change, does not hang on the order in
which things are said.
-/

namespace Highlight

open Toml (Entries)

namespace Occurrence

def single? : Occurrence → Option Switch
  | .setting .strict _ | .setting .lenient _ | .flag .verbose | .language _ => none
  | .setting s _ => some (.setting s)
  | .flag f => some (.flag f)

/-- Something that may be said at all: the contexts are known, and it is no call for help. -/
def Valid : Occurrence → Prop
  | .setting .strict name | .setting .lenient name => ∃ context : PairContext, name = context.name
  | .flag .help | .flag .version => False
  | _ => True

end Occurrence

namespace Arguments

variable {a a' next : Arguments} {o other : Occurrence} {said : List Occurrence} {earlier : Bool}
  {name : Text} {c : PairContext} {k : Switch}

/-- What arguments hold of all that has been said. -/
def Remembers (a : Arguments) : Occurrence → Prop
  | .setting .config value => a.config = some value
  | .setting .templates value => a.templates = some value
  | .setting .syntaxes value => a.syntaxes = some value
  | .setting .configurations value => a.configurations = some value
  | .setting .strict name => ∃ c ∈ a.strict, name = c.name
  | .setting .lenient name => ∃ c ∈ a.lenient, name = c.name
  | .flag .list => a.list = true
  | .flag .verbose => a.verbosity ≠ 0
  | .flag .quiet => a.quiet = true
  | .flag .help | .flag .version => False
  | .language name => name ∈ a.requested

theorem not_remembers_nothing (o : Occurrence) : ¬Remembers {} o := by
  rcases o with ⟨_ | _ | _ | _ | _ | _, value⟩ | ⟨_ | _ | _ | _ | _⟩ | name <;> simp [Remembers]

theorem once_eq_ok_iff : once earlier next = .ok a ↔ earlier = false ∧ a = next := by
  cases earlier <;> simp [once, eq_comm]

theorem context_eq_ok_iff : context name = .ok c ↔ name = c.name := by
  rw [context, ← PairContext.ofName?_eq_some_iff]
  cases PairContext.ofName? name <;> simp

theorem remembers_record (h : a.record o = .ok a') (other : Occurrence) :
    a'.Remembers other ↔ a.Remembers other ∨ other = o := by
  rcases o with ⟨_ | _ | _ | _ | _ | _, value⟩ | ⟨_ | _ | _ | _ | _⟩ | name
  case setting.config | setting.templates | setting.syntaxes | setting.configurations |
      flag.list | flag.quiet =>
    obtain ⟨hnone, rfl⟩ := once_eq_ok_iff.1 h
    rcases other with ⟨_ | _ | _ | _ | _ | _, value⟩ | ⟨_ | _ | _ | _ | _⟩ | name <;>
      grind [Remembers]
  case setting.strict | setting.lenient =>
    obtain ⟨c, hc, rfl⟩ := map_eq_ok_iff.1 h
    obtain rfl := context_eq_ok_iff.1 hc
    rcases other with ⟨_ | _ | _ | _ | _ | _, value⟩ | ⟨_ | _ | _ | _ | _⟩ | name <;>
      grind [Remembers]
  case flag.verbose | language =>
    cases h
    rcases other with ⟨_ | _ | _ | _ | _ | _, value⟩ | ⟨_ | _ | _ | _ | _⟩ | name <;>
      grind [Remembers]
  case flag.help | flag.version => cases h

def taken (a : Arguments) : Switch → Bool
  | .setting .config => a.config.isSome
  | .setting .templates => a.templates.isSome
  | .setting .syntaxes => a.syntaxes.isSome
  | .setting .configurations => a.configurations.isSome
  | .flag .list => a.list
  | .flag .quiet => a.quiet
  | _ => false

theorem taken_iff : a.taken k = true ↔ ∃ o : Occurrence, o.single? = some k ∧ a.Remembers o := by
  constructor
  · intro h
    cases k with
    | setting s =>
        have hvalue : ∃ value, (Occurrence.setting s value).single? = some (.setting s) ∧
            a.Remembers (.setting s value) := by
          cases s <;> simp_all [taken, Occurrence.single?, Remembers, Option.isSome_iff_exists]
        obtain ⟨value, hvalue⟩ := hvalue
        exact ⟨_, hvalue⟩
    | flag f =>
        refine ⟨.flag f, ?_⟩
        cases f <;> simp_all [taken, Occurrence.single?, Remembers]
  · rintro ⟨o, hk, ho⟩
    rcases o with ⟨_ | _ | _ | _ | _ | _, value⟩ | ⟨_ | _ | _ | _ | _⟩ | name
    case setting.config | setting.templates | setting.syntaxes | setting.configurations =>
      cases hk
      exact Option.isSome_iff_exists.2 ⟨value, ho⟩
    case flag.list | flag.quiet =>
      cases hk
      exact ho
    case flag.help | flag.version => cases ho
    all_goals cases hk

theorem exists_record_iff_taken : (∃ a', a.record o = .ok a') ↔
    o.Valid ∧ ∀ k, o.single? = some k → a.taken k = false := by
  rcases o with ⟨_ | _ | _ | _ | _ | _, value⟩ | ⟨_ | _ | _ | _ | _⟩ | name
  case setting.config | setting.templates | setting.syntaxes | setting.configurations |
      flag.list | flag.quiet =>
    simp [record, store, raise, once_eq_ok_iff, Occurrence.Valid, Occurrence.single?, taken]
  case setting.strict | setting.lenient =>
    simp [record, store, map_eq_ok_iff, context_eq_ok_iff, Occurrence.Valid, Occurrence.single?]
  case flag.verbose | language =>
    simp [record, raise, Occurrence.Valid, Occurrence.single?]
  case flag.help | flag.version =>
    simp [record, raise, Occurrence.Valid]

/-- Two things of which only one may be said. -/
def Clash (o other : Occurrence) : Prop := ∃ k, o.single? = some k ∧ other.single? = some k

theorem Clash.symm (h : Clash o other) : Clash other o := by
  obtain ⟨k, ho, hother⟩ := h
  exact ⟨k, hother, ho⟩

theorem exists_record_iff : (∃ a', a.record o = .ok a') ↔
    o.Valid ∧ ∀ other, a.Remembers other → ¬Clash other o := by
  rw [exists_record_iff_taken]
  refine and_congr_right fun _ => ⟨fun hfree other hother hclash => ?_, fun hapart k hk => ?_⟩
  · obtain ⟨k, hk', hk⟩ := hclash
    exact absurd (taken_iff.2 ⟨other, hk', hother⟩) (by simp [hfree k hk])
  · refine Bool.eq_false_iff.2 fun htaken => ?_
    obtain ⟨other, hk', hother⟩ := taken_iff.1 htaken
    exact hapart other hother ⟨k, hk', hk⟩

theorem remembers_collect (h : a.collect said = .ok a') (o : Occurrence) :
    a'.Remembers o ↔ a.Remembers o ∨ o ∈ said := by
  induction said generalizing a with
  | nil =>
      cases h
      simp
  | cons first said ih =>
      obtain ⟨next, hfirst, hrest⟩ := bind_eq_ok_iff.1 h
      rw [ih hrest, remembers_record hfirst, List.mem_cons, or_assoc]

theorem remembers_collect_nothing (h : collect {} said = .ok a) (o : Occurrence) :
    a.Remembers o ↔ o ∈ said := by
  rw [remembers_collect h, or_iff_right (not_remembers_nothing o)]

theorem exists_collect_iff : (∃ a', a.collect said = .ok a') ↔
    (∀ o ∈ said, o.Valid) ∧ said.Pairwise (¬Clash · ·) ∧
      ∀ o ∈ said, ∀ other, a.Remembers other → ¬Clash other o := by
  induction said generalizing a with
  | nil => exact ⟨fun _ => ⟨nofun, .nil, nofun⟩, fun _ => ⟨a, rfl⟩⟩
  | cons o said ih =>
      constructor
      · rintro ⟨a', h⟩
        obtain ⟨next, hfirst, hrest⟩ := bind_eq_ok_iff.1 h
        obtain ⟨hvalid, hfree⟩ := exists_record_iff.1 ⟨next, hfirst⟩
        obtain ⟨hvalids, hapart, hnew⟩ := ih.1 ⟨a', hrest⟩
        have hremembers := remembers_record hfirst
        refine ⟨List.forall_mem_cons.2 ⟨hvalid, hvalids⟩, List.pairwise_cons.2 ⟨?_, hapart⟩,
          List.forall_mem_cons.2 ⟨hfree, ?_⟩⟩
        · exact fun later hlater => hnew later hlater o ((hremembers o).2 (.inr rfl))
        · exact fun later hlater other hother =>
            hnew later hlater other ((hremembers other).2 (.inl hother))
      · rintro ⟨hvalid, hapart, hnew⟩
        obtain ⟨hvalid, hvalids⟩ := List.forall_mem_cons.1 hvalid
        obtain ⟨hfirst, hapart⟩ := List.pairwise_cons.1 hapart
        obtain ⟨hfree, hnew⟩ := List.forall_mem_cons.1 hnew
        obtain ⟨next, hnext⟩ := exists_record_iff.2 ⟨hvalid, hfree⟩
        have hrest : ∃ a', next.collect said = .ok a' := by
          refine ih.2 ⟨hvalids, hapart, fun later hlater other hother => ?_⟩
          rcases (remembers_record hnext other).1 hother with hother | rfl
          · exact hnew later hlater other hother
          · exact hfirst later hlater
        obtain ⟨a', hrest⟩ := hrest
        exact ⟨a', bind_eq_ok_iff.2 ⟨next, hnext, hrest⟩⟩

/-- What may be said on one command line, in any order. -/
structure Admissible (said : List Occurrence) : Prop where
  valid : ∀ o ∈ said, o.Valid
  apart : said.Pairwise (¬Clash · ·)
  calm : .flag .quiet ∈ said → .flag .verbose ∉ said

theorem Admissible.perm (h : Admissible said) {later : List Occurrence} (hperm : later.Perm said) :
    Admissible later where
  valid o ho := h.valid o (hperm.mem_iff.1 ho)
  apart := (hperm.pairwise_iff fun hapart hclash => hapart hclash.symm).2 h.apart
  calm hquiet hverbose := h.calm (hperm.mem_iff.1 hquiet) (hperm.mem_iff.1 hverbose)

theorem read_eq_ok_iff {arguments : List Text} (h : Says arguments said) :
    read arguments = .ok a ↔ collect {} said = .ok a ∧ (a.quiet = true → a.verbosity = 0) := by
  rw [read_of_said h, bind_eq_ok_iff]
  constructor
  · rintro ⟨found, hfound, heq⟩
    split at heq
    · cases heq
    · next hcalm =>
        cases heq
        exact ⟨hfound, by simpa using hcalm⟩
  · rintro ⟨hfound, hcalm⟩
    exact ⟨a, hfound, if_neg (by simpa using hcalm)⟩

theorem remembers_of_read {arguments : List Text} (h : Says arguments said)
    (hread : read arguments = .ok a) (o : Occurrence) : a.Remembers o ↔ o ∈ said :=
  remembers_collect_nothing ((read_eq_ok_iff h).1 hread).1 o

/-- A command line is accepted for what it says, not for the order. -/
theorem exists_read_iff {arguments : List Text} (h : Says arguments said) :
    (∃ a, read arguments = .ok a) ↔ Admissible said := by
  constructor
  · rintro ⟨a, hread⟩
    obtain ⟨hcollect, hcalm⟩ := (read_eq_ok_iff h).1 hread
    obtain ⟨hvalid, hapart, -⟩ := exists_collect_iff.1 ⟨a, hcollect⟩
    have hremembers := remembers_of_read h hread
    refine ⟨hvalid, hapart, fun hquiet hverbose => ?_⟩
    exact (hremembers (.flag .verbose)).2 hverbose (hcalm ((hremembers (.flag .quiet)).2 hquiet))
  · rintro ⟨hvalid, hapart, hcalm⟩
    obtain ⟨a, hcollect⟩ := exists_collect_iff.2 ⟨hvalid, hapart, fun _ _ other hother =>
      absurd hother (not_remembers_nothing other)⟩
    have hremembers := remembers_collect_nothing hcollect
    refine ⟨a, (read_eq_ok_iff h).2 ⟨hcollect, fun hquiet => ?_⟩⟩
    by_contra hverbose
    exact hcalm ((hremembers (.flag .quiet)).1 hquiet) ((hremembers (.flag .verbose)).1 hverbose)

end Arguments

theorem ValidationSettings.get_foldl_set (contexts : List PairContext) (validation : Validation)
    (settings : ValidationSettings) (c : PairContext) :
    (contexts.foldl (·.set · validation) settings).get c =
      if c ∈ contexts then validation else settings.get c := by
  induction contexts generalizing settings with
  | nil => rfl
  | cons first contexts ih =>
      rw [List.foldl_cons, ih, get_set]
      by_cases hfirst : c = first
      · subst hfirst
        simp
      · simp [hfirst, Ne.symm hfirst]

def Directory.setting : Directory → Setting
  | templates => .templates
  | syntaxes => .syntaxes
  | configurations => .configurations

namespace Arguments

variable {a a' : Arguments} {settings settings' : Settings} {said later : List Occurrence}
  {entries : Entries} {d : Directory} {c : PairContext} {value : Text}

def directory? (a : Arguments) : Directory → Option Text
  | .templates => a.templates
  | .syntaxes => a.syntaxes
  | .configurations => a.configurations

theorem remembers_directory :
    a.Remembers (.setting d.setting value) ↔ a.directory? d = some value := by
  cases d <;> rfl

theorem remembers_strict : a.Remembers (.setting .strict c.name) ↔ c ∈ a.strict := by
  simp [Remembers, PairContext.name_inj]

theorem remembers_lenient : a.Remembers (.setting .lenient c.name) ↔ c ∈ a.lenient := by
  simp [Remembers, PairContext.name_inj]

theorem directory_applyTo (a : Arguments) (settings : Settings) (d : Directory) :
    (a.applyTo settings).directory d = (a.directory? d).getD (settings.directory d) := by
  cases d <;> rfl

theorem get_applyTo (a : Arguments) (settings : Settings) (c : PairContext) :
    (a.applyTo settings).validation.get c =
      if c ∈ a.lenient then .lenient
      else if c ∈ a.strict then .strict
      else settings.validation.get c := by
  rw [applyTo, ValidationSettings.get_foldl_set, ValidationSettings.get_foldl_set]

end Arguments

theorem Stated.unique {β : Type} {found : Option Toml.Item} {value? : Toml.Item → Option β}
    {default value value' : β} (h : Stated found value? default value)
    (h' : Stated found value? default value') : value = value' := by
  cases found with
  | none => rw [h.2 rfl, h'.2 rfl]
  | some item => exact Option.some.inj ((h.1 item rfl).symm.trans (h'.1 item rfl))

/-- Settings of which each part is what the command line says of it, or else what the file says, or
else the default. Lenient stands above strict. -/
structure Layered (entries : Entries) (said : List Occurrence) (settings : Settings) : Prop where
  given : ∀ d value, .setting d.setting value ∈ said → settings.directory d = value
  directory : ∀ d, (∀ value, .setting d.setting value ∉ said) →
    Stated (entries.get? d.key) Settings.textOf? (({} : Settings).directory d)
      (settings.directory d)
  lenient : ∀ c : PairContext, .setting .lenient c.name ∈ said →
    settings.validation.get c = .lenient
  strict : ∀ c : PairContext, .setting .lenient c.name ∉ said → .setting .strict c.name ∈ said →
    settings.validation.get c = .strict
  validation : ∀ c : PairContext, .setting .lenient c.name ∉ said →
    .setting .strict c.name ∉ said →
      Stated ((entries.get? Settings.validationKey).bind (ValidationSettings.itemFor? c))
        Validation.ofItem? (ValidationSettings.get {} c) (settings.validation.get c)
  languages : Stated (entries.get? Settings.languagesKey) Settings.textsOf?
    ({} : Settings).languages settings.languages

namespace Layered

variable {entries : Entries} {said later : List Occurrence} {settings settings' : Settings}
  {d : Directory} {c : PairContext}

theorem directory_eq (h : Layered entries said settings) (h' : Layered entries later settings')
    (hsame : ∀ value, .setting d.setting value ∈ later ↔ .setting d.setting value ∈ said) :
    settings'.directory d = settings.directory d := by
  by_cases hgiven : ∃ value, .setting d.setting value ∈ said
  · obtain ⟨value, hvalue⟩ := hgiven
    rw [h.given d value hvalue, h'.given d value ((hsame value).2 hvalue)]
  · have hnone : ∀ value, .setting d.setting value ∉ said := not_exists.1 hgiven
    exact (h'.directory d fun value => mt (hsame value).1 (hnone value)).unique
      (h.directory d hnone)

theorem get_eq (h : Layered entries said settings) (h' : Layered entries later settings')
    (hlenient : .setting .lenient c.name ∈ later ↔ .setting .lenient c.name ∈ said)
    (hstrict : .setting .strict c.name ∈ later ↔ .setting .strict c.name ∈ said) :
    settings'.validation.get c = settings.validation.get c := by
  by_cases hl : .setting .lenient c.name ∈ said
  · rw [h.lenient c hl, h'.lenient c (hlenient.2 hl)]
  by_cases hs : .setting .strict c.name ∈ said
  · rw [h.strict c hl hs, h'.strict c (mt hlenient.1 hl) (hstrict.2 hs)]
  exact (h'.validation c (mt hlenient.1 hl) (mt hstrict.1 hs)).unique (h.validation c hl hs)

theorem languages_eq (h : Layered entries said settings) (h' : Layered entries later settings') :
    settings'.languages = settings.languages := h'.languages.unique h.languages

/-- Layers leave no choice, and the order of what is said does not count. -/
theorem eq_of_perm (h : Layered entries said settings) (h' : Layered entries later settings')
    (hperm : later.Perm said) : settings' = settings :=
  Settings.ext_parts (fun _ => h.directory_eq h' fun _ => hperm.mem_iff) (h.languages_eq h')
    fun _ => h.get_eq h' hperm.mem_iff hperm.mem_iff

end Layered

namespace Arguments

variable {a : Arguments} {settings : Settings} {arguments : List Text} {said : List Occurrence}
  {entries : Entries} {text : Text}

theorem layered_applyTo (hsettings : Settings.Described entries settings)
    (hsaid : Says arguments said) (hread : read arguments = .ok a) :
    Layered entries said (a.applyTo settings) := by
  have hremembers := remembers_of_read hsaid hread
  have hdirectory (d : Directory) (value : Text) :
      .setting d.setting value ∈ said ↔ a.directory? d = some value :=
    (hremembers _).symm.trans remembers_directory
  have hlenient (c : PairContext) : .setting .lenient c.name ∈ said ↔ c ∈ a.lenient :=
    (hremembers _).symm.trans remembers_lenient
  have hstrict (c : PairContext) : .setting .strict c.name ∈ said ↔ c ∈ a.strict :=
    (hremembers _).symm.trans remembers_strict
  refine ⟨fun d value hvalue => ?_, fun d hnone => ?_, fun c hl => ?_, fun c hl hs => ?_,
    fun c hl hs => ?_, hsettings.languages⟩
  · rw [directory_applyTo, (hdirectory d value).1 hvalue, Option.getD_some]
  · have hunsaid : a.directory? d = none :=
      Option.eq_none_iff_forall_ne_some.2 fun value => mt (hdirectory d value).2 (hnone value)
    rw [directory_applyTo, hunsaid, Option.getD_none]
    exact hsettings.directory d
  · rw [get_applyTo, if_pos ((hlenient c).1 hl)]
  · rw [get_applyTo, if_neg (mt (hlenient c).2 hl), if_pos ((hstrict c).1 hs)]
  · rw [get_applyTo, if_neg (mt (hlenient c).2 hl), if_neg (mt (hstrict c).2 hs)]
    exact hsettings.validation c

/-- Settings come in layers, part by part: a directory is what the command line says, or else the
settings file, or else the default; a context is lenient if the command line says so anywhere, or
else strict if it says so anywhere, or else as the file or the default has it; the languages are
left to the file and the default. A command line that says the same in another order is accepted as
well and comes to the same settings. One that says the same of a directory, or of a context, comes to
the same there, whatever else it says; the languages are the same in any case. -/
theorem settings_in_layers (hfile : Settings.read text = .ok settings)
    (hread : read arguments = .ok a) :
    ∃ entries, Toml.read? text = some entries ∧ (∃ said, Says arguments said) ∧
      ∀ said, Says arguments said →
        Layered entries said (a.applyTo settings) ∧
        (∀ arguments' later, Says arguments' later → later.Perm said →
          ∃ a', read arguments' = .ok a' ∧ a'.applyTo settings = a.applyTo settings) ∧
        ∀ arguments' later a', Says arguments' later → read arguments' = .ok a' →
          (∀ d : Directory,
            (∀ value, .setting d.setting value ∈ later ↔ .setting d.setting value ∈ said) →
              (a'.applyTo settings).directory d = (a.applyTo settings).directory d) ∧
          (∀ c : PairContext,
            (.setting .lenient c.name ∈ later ↔ .setting .lenient c.name ∈ said) →
            (.setting .strict c.name ∈ later ↔ .setting .strict c.name ∈ said) →
              (a'.applyTo settings).validation.get c = (a.applyTo settings).validation.get c) ∧
          (a'.applyTo settings).languages = (a.applyTo settings).languages := by
  obtain ⟨entries, hentries, hsettings⟩ := Settings.described_of_read hfile
  refine ⟨entries, hentries, says_of_read hread, fun said hsaid => ?_⟩
  have hlayered := layered_applyTo hsettings hsaid hread
  refine ⟨hlayered, fun arguments' later hlater hperm => ?_,
    fun arguments' later a' hlater hread' => ?_⟩
  · have hadmissible := (exists_read_iff hsaid).1 ⟨a, hread⟩
    obtain ⟨a', hread'⟩ := (exists_read_iff hlater).2 (hadmissible.perm hperm)
    exact ⟨a', hread', hlayered.eq_of_perm (layered_applyTo hsettings hlater hread') hperm⟩
  · have hother := layered_applyTo hsettings hlater hread'
    exact ⟨fun _ hsame => hlayered.directory_eq hother hsame,
      fun _ hlenient hstrict => hlayered.get_eq hother hlenient hstrict,
      hlayered.languages_eq hother⟩

/-- Options that contradict each other, in two orders, above a file that has its own checks. -/
theorem settings_in_layers_of_contradiction : ∃ settings a,
    Settings.read "templates-dir = \"tpl\"\n[validation]\ngroup = \"lenient\"\n".toList =
      .ok settings ∧
    read ["-o".toList, "out".toList, "--lenient=list".toList, "--strict".toList, "list".toList,
      "--strict=group".toList] = .ok a ∧
    a.applyTo settings =
      ⟨"tpl".toList, "out".toList, "languages".toList, ["sbss".toList, "sbml".toList],
        ⟨.lenient, .strict, .lenient⟩⟩ ∧
    ∃ a', read ["--strict=group".toList, "--strict".toList, "list".toList, "-oout".toList,
      "--lenient".toList, "list".toList] = .ok a' ∧ a'.applyTo settings = a.applyTo settings := by
  let settings : Settings :=
    { templates := "tpl".toList, validation := ⟨.strict, .lenient, .lenient⟩ }
  let a : Arguments :=
    { syntaxes := some "out".toList, strict := [.list, .group], lenient := [.list] }
  have hfile : Settings.read
      "templates-dir = \"tpl\"\n[validation]\ngroup = \"lenient\"\n".toList = .ok settings :=
    ok_of_toOption (by decide +kernel)
  have hread : read ["-o".toList, "out".toList, "--lenient=list".toList, "--strict".toList,
      "list".toList, "--strict=group".toList] = .ok a := rfl
  have hword (name : Text) (h : name.head? ≠ some '-') : IsWord name := by
    rintro c letters rfl
    exact h rfl
  have hlong (name value : Text) {s : Setting} (h : Switch.ofName? name = some (.setting s)) :
      SaysOne ('-' :: '-' :: (name ++ '=' :: value)) [.setting s value] none := .attached h value
  have hwaiting (name : Text) {s : Setting} (h : Switch.ofName? name = some (.setting s)) :
      SaysOne ('-' :: '-' :: name) [] (some s) := .waiting h
  have hsaid := Says.valued (.letters (.waiting (c := 'o') rfl)) (hword "out".toList (by decide))
    (.complete (hlong "lenient".toList "list".toList rfl)
      (.valued (hwaiting "strict".toList rfl) (hword "list".toList (by decide))
        (.complete (hlong "strict".toList "group".toList rfl) .done)))
  have hlater := Says.complete (hlong "strict".toList "group".toList rfl)
    (.valued (hwaiting "strict".toList rfl) (hword "list".toList (by decide))
      (.complete (.letters (.attached (c := 'o') (d := 'o') rfl (by decide) "ut".toList))
        (.valued (hwaiting "lenient".toList rfl) (hword "list".toList (by decide)) .done)))
  obtain ⟨entries, -, -, hlayers⟩ := settings_in_layers hfile hread
  obtain ⟨-, hreordered, -⟩ := hlayers _ hsaid
  exact ⟨settings, a, hfile, hread, rfl, hreordered _ _ hlater (by decide)⟩

end Arguments

end Highlight
