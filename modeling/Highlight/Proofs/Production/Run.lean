import Highlight.Proofs.Production.Progress

/-!
Whole runs. A run that succeeds has written the documents of all languages and nothing else; a run
that fails while documents are made stops at one of them, with those before it complete and those
after it untouched.
-/

namespace Highlight.Production

open Disk (Grows Cleared)

variable {p : Production} {σ : Type} {host : Host (StateM σ)} {disk : σ → Disk} {s s₁ s₂ s' : σ}
  {requested paths : List Text} {languages : List Language} {e : Error}

def artifacts (languages : List Language) : List (Language × DocumentKind) :=
  languages.flatMap fun language => language.documents.map (language, ·)

theorem map_artifacts {β : Type} (f : Language → DocumentKind → β) (languages : List Language) :
    (artifacts languages).map (fun a => f a.1 a.2) =
      languages.flatMap fun language => language.documents.map (f language) := by
  rw [artifacts, List.map_flatMap]
  simp only [List.map_map]
  rfl

theorem mem_artifacts_iff {a : Language × DocumentKind} :
    a ∈ artifacts languages ↔ a.1 ∈ languages ∧ a.2 ∈ a.1.documents := by
  rw [artifacts, List.mem_flatMap]
  constructor
  · rintro ⟨language, hlanguage, ha⟩
    obtain ⟨kind, hkind, rfl⟩ := List.mem_map.1 ha
    exact ⟨hlanguage, hkind⟩
  · rintro ⟨hlanguage, hkind⟩
    exact ⟨a.1, hlanguage, List.mem_map.2 ⟨a.2, hkind, rfl⟩⟩

theorem plain_of_mem_artifacts (hp : p.generator.Plain)
    (h : p.languages requested = .ok languages) : ∀ a ∈ artifacts languages, '/' ∉ a.1.name :=
  fun _ ha => plain_of_mem_languages hp h (mem_artifacts_iff.1 ha).1

theorem eq_of_mem_artifacts (hp : p.generator.Plain) (h : p.languages requested = .ok languages) :
    ∀ a ∈ artifacts languages, ∀ b ∈ artifacts languages, a.1.name = b.1.name → a.2 = b.2 →
      a = b := by
  intro a ha b hb hname hkind
  have ha := (mem_artifacts_iff.1 ha).1
  have hb := (mem_artifacts_iff.1 hb).1
  exact Prod.ext (eq_of_mem_languages hp h ha hb hname) hkind

theorem outcome_require_bind {α : Type} (act : StateM σ Bool)
    (next : Unit → ExceptT Error (StateM σ) α) (s : σ) :
    outcome (require act >>= next) s =
      if (act s).1 then outcome (next ()) (act s).2 else (.error .inputOutput, (act s).2) := by
  rw [outcome_bind, require, outcome_lift_bind]
  cases (act s).1 <;> rfl

/-- A run whose languages are known and whose directories are there is a run over documents. -/
theorem outcome_run (hlanguages : p.languages requested = .ok languages)
    (hsyntaxes : host.makeDirectories p.settings.syntaxes s = (true, s₁))
    (hconfigurations : host.makeDirectories p.settings.configurations s₁ = (true, s₂)) :
    outcome (p.run host requested) s = outcome (p.makeAll host (artifacts languages)) s₂ := by
  rw [run, hlanguages, outcome_ok_bind]
  simp only [outcome_require_bind, hsyntaxes, hconfigurations, if_true]
  rfl

theorem prepared_of_run (h : outcome (p.run host requested) s = (.ok paths, s')) :
    ∃ languages s₁ s₂, p.languages requested = .ok languages ∧
      host.makeDirectories p.settings.syntaxes s = (true, s₁) ∧
        host.makeDirectories p.settings.configurations s₁ = (true, s₂) := by
  rw [run] at h
  cases hlanguages : p.languages requested with
  | error e =>
      rw [hlanguages, outcome_error_bind] at h
      cases h
  | ok languages =>
      rw [hlanguages, outcome_ok_bind] at h
      simp only [outcome_require_bind] at h
      split at h
      · next hsyntaxes =>
          split at h
          · next hconfigurations =>
              exact ⟨languages, _, _, rfl, Prod.ext hsyntaxes rfl, Prod.ext hconfigurations rfl⟩
          · cases h
      · cases h

theorem grows_of_prepared (hhost : host.Reliable disk)
    (hsyntaxes : host.makeDirectories p.settings.syntaxes s = (true, s₁))
    (hconfigurations : host.makeDirectories p.settings.configurations s₁ = (true, s₂)) :
    Grows [p.settings.syntaxes, p.settings.configurations] (disk s) (disk s₂) := by
  refine Grows.trans ((hhost.makeDirectories hsyntaxes).mono ?_)
    ((hhost.makeDirectories hconfigurations).mono ?_)
  · simp
  · simp

/-- Two languages, the first with a configuration, and nothing in their grammars. Their directories
are told from the root, from the one above the directory at hand, and from that directory itself. -/
def small : Production where
  generator :=
    [⟨['a'], [], true⟩, ⟨['b'], [], false⟩].foldl Generator.addLanguage (.make .empty .empty {})
  settings :=
    { templates := "/t".toList
      syntaxes := "../o".toList
      configurations := ['n']
      languages := [['a']] }

theorem plain_small : small.generator.Plain := by
  have hmake : (Generator.make .empty .empty {}).Plain := nofun
  exact hmake.addLanguages (by decide)

def smallTree : Disk :=
  [([['w']], Entry.directory), ([['t']], .directory), ([['o']], .directory),
    (["a.tmLanguage.template.json".toList, ['t']], .file (.text ['1'])),
    (["a-configuration.template.json".toList, ['t']],
      .file (.text "[\"__WORD_PATTERN__\"]".toList)),
    (["b.tmLanguage.template.json".toList, ['t']], .file (.text ['2'])),
    (["a.tmLanguage.json".toList, ['o']], .file (.text ['0'])),
    ([".a.tmLanguage.json.tmp".toList, ['o']], .file (.binary [255]))].foldl
      (fun d (place, entry) => d.put place entry) { entries := .empty, here := [['w']] }

/-- What has become of a tree when all of some documents have been made. Nothing in it is new except
for the documents and the directories on the way to them. -/
structure Delivered (p : Production) (list : List (Language × DocumentKind)) (d d' : Disk) :
    Prop where
  here : d'.here = d.here
  document : ∀ a ∈ list, ∃ place template document,
    d'.locate (p.settings.templatePath a.1 a.2) = .ok place ∧
      (∀ other, d.locate (p.settings.templatePath a.1 a.2) = .ok other → other = place) ∧
        d.entry? place = some (.file (.text template)) ∧
          p.generator.generate a.2 a.1.name template = .ok document ∧
            (Json.read? document).isSome ∧
              d'.read (p.settings.outputPath a.1 a.2) = .ok document
  temporary : ∀ a ∈ list, ∃ parent,
    d'.locate (p.settings.outputPath a.1 a.2) = .ok (a.1.output a.2 :: parent) ∧
      d'.entry? (Path.temporary (a.1.output a.2) :: parent) = none
  template : ∀ language kind place entry, '/' ∉ language.name →
    d'.locate (p.settings.templatePath language kind) = .ok place →
      d.entry? place = some entry → d'.entry? place = some entry
  others : ∀ place,
    (∀ a ∈ list, ∀ parent, d'.locate (p.settings.outputPath a.1 a.2) =
        .ok (a.1.output a.2 :: parent) →
      place ≠ a.1.output a.2 :: parent ∧ place ≠ Path.temporary (a.1.output a.2) :: parent) →
    d'.entry? place = d.entry? place ∨ d.entry? place = none ∧ d'.IsDirectory place ∧
      ∃ path ∈ [p.settings.syntaxes, p.settings.configurations], ∃ n,
        d'.walk (d'.start path) ((Path.names path).take n) = .ok place

variable {initial made final : Disk} {list : List (Language × DocumentKind)}

theorem delivered_of_completed
    (hgrows : Grows [p.settings.syntaxes, p.settings.configurations] initial made)
    (h : p.Completed made list final) : p.Delivered list initial final where
  here := h.directories.here.trans hgrows.here
  document a ha := by
    obtain ⟨document, target, ⟨⟨template, hread, hgenerate⟩, hvalid⟩, htarget, hwritten⟩ :=
      h.document a ha
    obtain ⟨place, hplace, hentry⟩ := Disk.read_eq_ok_iff.1 hread
    refine ⟨place, template, document, h.directories.locate_iff.2 hplace,
      fun other hother => ?_, ?_, hgenerate, hvalid, ?_⟩
    · exact Except.ok.inj ((Disk.locate_mono hgrows.keeps hother).symm.trans hplace)
    · rcases hgrows.entry place with heq | ⟨-, hdirectory, -⟩
      · rw [← heq, hentry]
      · cases hentry.symm.trans hdirectory
    · exact Disk.read_eq_ok_iff.2 ⟨target, h.directories.locate_iff.2 htarget, hwritten⟩
  temporary a ha := by
    obtain ⟨-, target, -, htarget, -⟩ := h.document a ha
    obtain ⟨source, hsource, hgone⟩ := h.temporary a ha
    obtain ⟨parent, -, rfl⟩ := Settings.output_place (h.plain a ha) htarget
    cases Settings.temporary_place_of_output (h.plain a ha) htarget hsource
    exact ⟨parent, h.directories.locate_iff.2 htarget, hgone⟩
  template language kind place entry hlanguage hplace hentry := by
    rw [h.directories.locate_iff] at hplace
    rw [h.template hlanguage hplace]
    exact hgrows.keeps_entry hentry
  others place hplace := by
    have hkept : final.entry? place = made.entry? place := by
      refine Disk.entry?_congr (h.others place fun a ha => ?_)
      obtain ⟨-, target, -, htarget, -⟩ := h.document a ha
      obtain ⟨parent, -, rfl⟩ := Settings.output_place (h.plain a ha) htarget
      obtain ⟨houtput, htemporary⟩ := hplace a ha parent (h.directories.locate_iff.2 htarget)
      refine ⟨fun heq => houtput ?_, fun heq => htemporary ?_⟩
      · exact Except.ok.inj (heq.symm.trans htarget)
      · exact Settings.temporary_place_of_output (h.plain a ha) htarget heq
    rcases hgrows.entry place with heq | ⟨hnone, hdirectory, path, hpath, n, hway⟩
    · exact .inl (hkept.trans heq)
    · refine .inr ⟨hnone, hkept.trans hdirectory, path, hpath, n, ?_⟩
      rw [h.directories.keeps.start]
      exact Disk.walk_mono h.directories.keeps hway

/-- A run that succeeds has written what the templates make, and nothing else. -/
theorem run_delivers (hhost : host.Reliable disk) (hp : p.generator.Plain)
    (h : outcome (p.run host requested) s = (.ok paths, s')) :
    ∃ languages, p.languages requested = .ok languages ∧
      languages.map Language.name = p.names requested ∧
        paths = (languages.flatMap fun language =>
          language.documents.map (p.settings.outputPath language)) ∧
            p.Delivered (artifacts languages) (disk s) (disk s') := by
  obtain ⟨languages, s₁, s₂, hlanguages, hsyntaxes, hconfigurations⟩ := prepared_of_run h
  have hplain := plain_of_mem_artifacts hp hlanguages
  rw [outcome_run hlanguages hsyntaxes hconfigurations] at h
  rcases makeAll_cases hhost (.nil p (disk s₂)) hplain h with
    ⟨heq, hall⟩ | ⟨_, _, _, _, _, _, heq, -⟩
  · cases heq
    exact ⟨languages, hlanguages, names_of_languages hp hlanguages, map_artifacts _ languages,
      delivered_of_completed (grows_of_prepared hhost hsyntaxes hconfigurations) hall⟩
  · cases heq

/-- An older document is replaced, and a temporary that was left behind is gone. -/
theorem run_delivers_small : ∃ languages s', outcome (small.run Session.host []) ⟨smallTree, []⟩ =
      (.ok ["../o/a.tmLanguage.json".toList, "n/a-configuration.json".toList], s') ∧
    small.languages [] = .ok languages ∧
      small.Delivered (artifacts languages) smallTree s'.disk := by
  have hrun : (outcome (small.run Session.host []) ⟨smallTree, []⟩).1 =
      .ok ["../o/a.tmLanguage.json".toList, "n/a-configuration.json".toList] :=
    ok_of_toOption (by decide +kernel)
  obtain ⟨languages, hlanguages, -, -, hdelivered⟩ :=
    run_delivers Session.reliable_host plain_small (Prod.ext hrun rfl)
  exact ⟨languages, _, Prod.ext hrun rfl, hlanguages, hdelivered⟩

/-- What has become of a tree with all directories when a run over some documents has stopped after
the first of them. -/
structure Stopped (p : Production) (list before : List (Language × DocumentKind)) (d d' : Disk) :
    Prop where
  document : ∀ a ∈ before, ∃ document, p.Makes d a.1 a.2 document ∧
    d'.read (p.settings.outputPath a.1 a.2) = .ok document
  destination : ∀ a ∈ list, a ∉ before → ∀ target,
    d.locate (p.settings.outputPath a.1 a.2) = .ok target → d'.entry? target = d.entry? target
  temporary : ∀ a ∈ list, ∀ source,
    d.locate (p.settings.temporaryPath a.1 a.2) = .ok source →
      d'.entry? source = none ∨ d'.entry? source = d.entry? source
  others : ∀ place, (∀ a ∈ before, d.locate (p.settings.outputPath a.1 a.2) ≠ .ok place) →
    (∀ a ∈ list, d.locate (p.settings.temporaryPath a.1 a.2) ≠ .ok place) →
      d'.entry? place = d.entry? place
  directories : Disk.SameDirectories d d'

theorem stopped_of_completed {before after : List (Language × DocumentKind)}
    {a : Language × DocumentKind} {d : Disk} (hlist : ∀ b ∈ before ++ a :: after, '/' ∉ b.1.name)
    (hunique : ∀ b ∈ before ++ a :: after, ∀ c ∈ before ++ a :: after, b.1.name = c.1.name →
      b.2 = c.2 → b = c)
    (h : p.Completed made before d)
    (hcleared : Cleared (p.settings.temporaryPath a.1 a.2) d final) :
    p.Stopped (before ++ a :: after) before made final := by
  have hbefore {b : Language × DocumentKind} (hb : b ∈ before) : b ∈ before ++ a :: after :=
    List.mem_append_left _ hb
  have ha : a ∈ before ++ a :: after := List.mem_append_right _ List.mem_cons_self
  -- the temporary of the document at which the run stopped is no file of another document
  have hkept {b : Language × DocumentKind} (hb : b ∈ before ++ a :: after) {target : Address}
      (htarget : made.locate (p.settings.outputPath b.1 b.2) = .ok target) :
      final.entry? target = d.entry? target := by
    refine hcleared.entry?_eq fun heq => ?_
    rw [h.directories.locate_iff] at heq
    exact Settings.output_place_ne_temporary (hlist b hb) (hlist a ha) htarget heq rfl
  have hdirectories := h.directories.trans hcleared.sameDirectories
  refine
    { document := fun b hb => ?_
      destination := fun b hb hnot target htarget => ?_
      temporary := fun b hb source hsource => ?_
      others := fun place houtput htemporary => ?_
      directories := hdirectories }
  · obtain ⟨document, target, hmakes, htarget, hwritten⟩ := h.document b hb
    refine ⟨document, hmakes, Disk.read_eq_ok_iff.2 ⟨target, hdirectories.locate_iff.2 htarget, ?_⟩⟩
    rw [hkept (hbefore hb) htarget, hwritten]
  · refine (hkept hb htarget).trans (Disk.entry?_congr (h.others target fun c hc => ?_))
    have hplain := hlist c (hbefore hc)
    refine ⟨fun heq => hnot ?_, fun heq => ?_⟩
    · obtain ⟨hname, hkind⟩ := Settings.output_place_injective (hlist b hb) hplain htarget heq
      rwa [hunique b hb c (hbefore hc) hname hkind]
    · exact Settings.output_place_ne_temporary (hlist b hb) hplain htarget heq rfl
  · rcases hcleared.gone_or_kept source with hgone | hsame
    · exact .inl hgone
    · rw [hsame]
      by_cases hdone : ∃ c ∈ before, made.locate (p.settings.temporaryPath c.1 c.2) = .ok source
      · obtain ⟨c, hc, heq⟩ := hdone
        obtain ⟨source', hsource', hgone⟩ := h.temporary c hc
        cases heq.symm.trans hsource'
        exact .inl hgone
      · refine .inr (Disk.entry?_congr (h.others source fun c hc => ?_))
        refine ⟨fun heq => ?_, fun heq => hdone ⟨c, hc, heq⟩⟩
        exact Settings.output_place_ne_temporary (hlist c (hbefore hc)) (hlist b hb) heq hsource rfl
  · have hfinal : final.entry? place = d.entry? place :=
      hcleared.entry?_eq fun heq => htemporary a ha (h.directories.locate_iff.1 heq)
    exact hfinal.trans <| Disk.entry?_congr <| h.others place fun b hb =>
      ⟨houtput b hb, htemporary b (hbefore hb)⟩

/-- A run that fails once its directories are there stops at one document, whose language the error
names. -/
theorem run_stops (hhost : host.Reliable disk) (hp : p.generator.Plain)
    (hlanguages : p.languages requested = .ok languages)
    (hsyntaxes : host.makeDirectories p.settings.syntaxes s = (true, s₁))
    (hconfigurations : host.makeDirectories p.settings.configurations s₁ = (true, s₂))
    (h : outcome (p.run host requested) s = (.error e, s')) :
    ∃ before a after cause, artifacts languages = before ++ a :: after ∧
      e = .language a.1.name cause ∧ cause.IsCause ∧
        Grows [p.settings.syntaxes, p.settings.configurations] (disk s) (disk s₂) ∧
          p.Stopped (artifacts languages) before (disk s₂) (disk s') := by
  have hplain := plain_of_mem_artifacts hp hlanguages
  rw [outcome_run hlanguages hsyntaxes hconfigurations] at h
  rcases makeAll_cases hhost (.nil p (disk s₂)) hplain h with
    ⟨heq, -⟩ | ⟨before, a, after, cause, d, hlist, heq, hcause, hbefore, hcleared⟩
  · cases heq
  · cases heq
    refine ⟨before, a, after, cause, hlist, rfl, hcause,
      grows_of_prepared hhost hsyntaxes hconfigurations, ?_⟩
    have hunique := eq_of_mem_artifacts hp hlanguages
    rw [hlist] at hplain hunique ⊢
    exact stopped_of_completed hplain hunique hbefore hcleared

/-- A file that does not fit is given up, after the one that does. -/
theorem run_stops_small : ∃ s' made before a after,
    outcome (small.run (Session.cramped 5) []) ⟨smallTree, []⟩ =
        (.error (.language ['a'] .inputOutput), s') ∧
      artifacts [⟨['a'], [], true⟩] = before ++ a :: after ∧
        small.Stopped (artifacts [⟨['a'], [], true⟩]) before made s'.disk := by
  have hlanguages : small.languages [] = .ok [⟨['a'], [], true⟩] :=
    ok_of_toOption (by decide +kernel)
  have hsyntaxes : ((Session.cramped 5).makeDirectories "../o".toList ⟨smallTree, []⟩).1 = true := by
    decide +kernel
  have hconfigurations : ((Session.cramped 5).makeDirectories ['n']
      ((Session.cramped 5).makeDirectories "../o".toList ⟨smallTree, []⟩).2).1 = true := by
    decide +kernel
  have hrun : (outcome (small.run (Session.cramped 5) []) ⟨smallTree, []⟩).1 =
      .error (.language ['a'] .inputOutput) := by
    decide +kernel
  obtain ⟨before, a, after, cause, hlist, -, -, -, hstopped⟩ :=
    run_stops (Session.reliable_cramped 5) plain_small hlanguages (Prod.ext hsyntaxes rfl)
      (Prod.ext hconfigurations rfl) (Prod.ext hrun rfl)
  exact ⟨_, _, before, a, after, Prod.ext hrun rfl, hlist, hstopped⟩

end Highlight.Production
