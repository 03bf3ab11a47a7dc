import Highlight.Proofs.Production.Run

/-!
Runs over a tree that is kept as plain data. Whether such a run succeeds, and what it leaves, hangs
on the set of documents alone: a document can be made before others exactly when it can be made
after them, and making it again changes nothing.
-/

namespace Highlight.Production

open Disk (SameDirectories Installs)

variable {p : Production} {made d d' final : Disk} {s t : Session}
  {done list list' : List (Language × DocumentKind)} {language : Language} {kind : DocumentKind}
  {document path temporary text : Text} {requested other paths : List Text}

theorem readTemplate_of_read (h : s.disk.read path = .ok text) : ∃ log,
    outcome (readTemplate Session.host path) s = (.ok text, ⟨s.disk, log⟩) := by
  rw [readTemplate, note, outcome_lift_bind, Host.readInput, outcome_lift_bind]
  have hread : Session.host.read path (Session.host.report
      ⟨.debug, .driver, "reading ".toList ++ path⟩ s).2 = (.ok text, _) := Prod.ext h rfl
  rw [hread]
  exact ⟨_, rfl⟩

theorem save_of_installs (h : Installs temporary path text s.disk d') : ∃ log,
    outcome (save Session.host temporary path text) s = (.ok (), ⟨d', log⟩) := by
  obtain ⟨d₁, hwrite, hrename⟩ := Disk.write_rename_iff.2 h
  have hrenamed : Session.host.rename temporary path { s with disk := d₁ } =
      (true, { s with disk := d' }) := Session.rename_host hrename
  rw [save, outcome_lift_bind, Session.write_host hwrite, if_pos rfl, outcome_lift_bind, hrenamed]
  exact ⟨_, rfl⟩

theorem makeDocument_of_installs (hmakes : p.Makes s.disk language kind document)
    (hinstalls : Installs (p.settings.temporaryPath language kind)
      (p.settings.outputPath language kind) document s.disk d') : ∃ log,
    outcome (p.makeDocument Session.host language kind) s =
      (.ok (p.settings.outputPath language kind), ⟨d', log⟩) := by
  obtain ⟨⟨template, hread, hgenerate⟩, hvalid⟩ := hmakes
  obtain ⟨log, htemplate⟩ := readTemplate_of_read hread
  have hnot : ¬(Json.read? document).isNone := by simpa [Option.isSome_iff_ne_none] using hvalid
  cases hreport : Session.host.reportAll (p.generator.report (language.slots kind) template)
      ⟨s.disk, log⟩ with
  | mk _ reported =>
      have hsame := reportAll_cases Session.reliable_host hreport
      dsimp only at hsame
      rw [← hsame] at hinstalls
      obtain ⟨log', hsave⟩ := save_of_installs hinstalls
      refine ⟨log', ?_⟩
      rw [makeDocument, outcome_bind, htemplate]
      dsimp only
      rw [outcome_lift_bind, hreport, hgenerate, outcome_bind, outcome_liftExcept]
      simp only [if_neg hnot]
      rw [outcome_bind, hsave]
      rfl

/-- A tree lets a document be made. -/
def Ready (p : Production) (d : Disk) (language : Language) (kind : DocumentKind) : Prop :=
  ∃ document d', p.Makes d language kind document ∧
    Installs (p.settings.temporaryPath language kind) (p.settings.outputPath language kind)
      document d d'

/-- What other documents are made does not matter to a document. -/
theorem Completed.ready (h : p.Completed made done d) (hlanguage : '/' ∉ language.name)
    (hready : p.Ready made language kind) : p.Ready d language kind := by
  obtain ⟨document, d', hmakes, source, target, hsource, htarget, hsource', htarget', -⟩ := hready
  refine ⟨document, _, (h.makes_iff hlanguage).2 hmakes, source, target,
    h.directories.locate_iff.2 hsource, h.directories.locate_iff.2 htarget, ?_, ?_, rfl⟩
  · rwa [h.directories.isDirectory_iff]
  · rwa [h.directories.isDirectory_iff]

theorem Completed.ready_of_mem {a : Language × DocumentKind} (h : p.Completed made done d)
    (ha : a ∈ done) : p.Ready made a.1 a.2 := by
  obtain ⟨document, target, hmakes, htarget, hwritten⟩ := h.document a ha
  obtain ⟨source, hsource, hgone⟩ := h.temporary a ha
  refine ⟨document, _, hmakes, source, target, hsource, htarget, ?_, ?_, rfl⟩
  · rw [← h.directories.isDirectory_iff]
    exact Disk.not_isDirectory_of_none hgone
  · rw [← h.directories.isDirectory_iff]
    exact Disk.not_isDirectory_of_file hwritten

theorem makeAll_of_ready (h : p.Completed made done s.disk) (hlist : ∀ a ∈ list, '/' ∉ a.1.name)
    (hready : ∀ a ∈ list, p.Ready made a.1 a.2) : ∃ s',
    outcome (p.makeAll Session.host list) s =
      (.ok (list.map fun a => p.settings.outputPath a.1 a.2), s') := by
  induction list generalizing done s with
  | nil => exact ⟨s, rfl⟩
  | cons a list ih =>
      obtain ⟨language, kind⟩ := a
      obtain ⟨ha, hlist⟩ := List.forall_mem_cons.1 hlist
      obtain ⟨hfirst, hready⟩ := List.forall_mem_cons.1 hready
      obtain ⟨document, d', hmakes, hinstalls⟩ := h.ready ha hfirst
      obtain ⟨log, hdocument⟩ := makeDocument_of_installs hmakes hinstalls
      have hnext : p.Completed made (done ++ [(language, kind)]) d' :=
        h.snoc ha hmakes hinstalls
      obtain ⟨s', hrest⟩ := ih (s := ⟨d', log⟩) hnext hlist hready
      refine ⟨s', ?_⟩
      rw [makeAll, outcome_bind, outcome_adapt, hdocument]
      change outcome (p.makeAll Session.host list >>= _) _ = _
      rw [outcome_bind, hrest]
      rfl

/-- A place can only be the document's or its temporary's, or be left alone. -/
theorem Completed.unique (h : p.Completed made list d) (h' : p.Completed made list d') :
    d = d' := by
  refine Disk.eq_of_get?_eq (h.directories.here.trans h'.directories.here.symm) fun place => ?_
  by_cases houtput : ∃ a ∈ list, made.locate (p.settings.outputPath a.1 a.2) = .ok place
  · obtain ⟨a, ha, hplace⟩ := houtput
    have hfile {d : Disk} (h : p.Completed made list d) : ∃ document,
        p.Makes made a.1 a.2 document ∧
          d.entries.get? place = some (.file (.text document)) := by
      obtain ⟨document, target, hmakes, htarget, hwritten⟩ := h.document a ha
      cases hplace.symm.trans htarget
      have hplain := Disk.not_isDirectory_of_file hwritten
      exact ⟨document, hmakes, (Disk.get?_of_not_isDirectory hplain).trans hwritten⟩
    obtain ⟨document, hmakes, hwritten⟩ := hfile h
    obtain ⟨document', hmakes', hwritten'⟩ := hfile h'
    rw [hwritten, hwritten', hmakes.unique hmakes']
  · by_cases htemporary : ∃ a ∈ list, made.locate (p.settings.temporaryPath a.1 a.2) = .ok place
    · obtain ⟨a, ha, hplace⟩ := htemporary
      have hnone {d : Disk} (h : p.Completed made list d) : d.entries.get? place = none := by
        obtain ⟨source, hsource, hgone⟩ := h.temporary a ha
        cases hplace.symm.trans hsource
        exact (Disk.get?_of_not_isDirectory (Disk.not_isDirectory_of_none hgone)).trans hgone
      rw [hnone h, hnone h']
    · have hothers (a : Language × DocumentKind) (ha : a ∈ list) :
          made.locate (p.settings.outputPath a.1 a.2) ≠ .ok place ∧
            made.locate (p.settings.temporaryPath a.1 a.2) ≠ .ok place :=
        ⟨fun heq => houtput ⟨a, ha, heq⟩, fun heq => htemporary ⟨a, ha, heq⟩⟩
      rw [h.others place hothers, h'.others place hothers]

theorem Completed.congr (h : p.Completed made list d) (hsame : ∀ a, a ∈ list ↔ a ∈ list') :
    p.Completed made list' d where
  plain a ha := h.plain a ((hsame a).2 ha)
  document a ha := h.document a ((hsame a).2 ha)
  temporary a ha := h.temporary a ((hsame a).2 ha)
  others place hplace := h.others place fun a ha => hplace a ((hsame a).1 ha)
  directories := h.directories

theorem Completed.again (h : p.Completed made list d) : p.Completed d list d where
  plain := h.plain
  document a ha := by
    obtain ⟨document, target, hmakes, htarget, hwritten⟩ := h.document a ha
    exact ⟨document, target, (h.makes_iff (h.plain a ha)).2 hmakes,
      h.directories.locate_iff.2 htarget, hwritten⟩
  temporary a ha := by
    obtain ⟨source, hsource, hgone⟩ := h.temporary a ha
    exact ⟨source, h.directories.locate_iff.2 hsource, hgone⟩
  others _ _ := rfl
  directories := .refl

/-- A tree in which the directories of documents have been made. -/
def Prepared (p : Production) (d made : Disk) : Prop :=
  ∃ d', d.makeDirectories p.settings.syntaxes = (d', true) ∧
    d'.makeDirectories p.settings.configurations = (made, true)

theorem Prepared.again (h : p.Prepared d made) (hsame : SameDirectories made final) :
    p.Prepared final final := by
  obtain ⟨d', hsyntaxes, hconfigurations⟩ := h
  have hgrows := Disk.grows_makeDirectories d' p.settings.configurations
  rw [hconfigurations] at hgrows
  exact ⟨final, Disk.makeDirectories_again hsyntaxes (hgrows.keeps.trans hsame.keeps),
    Disk.makeDirectories_again hconfigurations hsame.keeps⟩

/-- Exactly when a run succeeds, and with what. -/
theorem run_eq_ok_iff (hp : p.generator.Plain) :
    (∃ s', outcome (p.run Session.host requested) s = (.ok paths, s') ∧ s'.disk = final) ↔
      ∃ languages made, p.languages requested = .ok languages ∧ p.Prepared s.disk made ∧
        paths = (artifacts languages).map (fun a => p.settings.outputPath a.1 a.2) ∧
          p.Completed made (artifacts languages) final := by
  constructor
  · rintro ⟨s', h, rfl⟩
    obtain ⟨languages, s₁, s₂, hlanguages, hsyntaxes, hconfigurations⟩ := prepared_of_run h
    have hplain := plain_of_mem_artifacts hp hlanguages
    rw [outcome_run hlanguages hsyntaxes hconfigurations] at h
    rcases makeAll_cases Session.reliable_host (.nil p s₂.disk) hplain h with
      ⟨heq, hall⟩ | ⟨_, _, _, _, _, _, heq, -⟩
    · cases heq
      exact ⟨languages, s₂.disk, hlanguages, ⟨s₁.disk, Session.makeDirectories_of_host hsyntaxes,
        Session.makeDirectories_of_host hconfigurations⟩, rfl, hall⟩
    · cases heq
  · rintro ⟨languages, made, hlanguages, ⟨d', hsyntaxes, hconfigurations⟩, rfl, hall⟩
    have hplain := plain_of_mem_artifacts hp hlanguages
    have hrun : outcome (p.run Session.host requested) s =
        outcome (p.makeAll Session.host (artifacts languages)) ⟨made, s.log⟩ :=
      outcome_run hlanguages (Session.makeDirectories_host hsyntaxes)
        (Session.makeDirectories_host hconfigurations)
    have hstart : p.Completed made [] (⟨made, s.log⟩ : Session).disk := .nil p made
    obtain ⟨s', h⟩ := makeAll_of_ready hstart hplain fun a => hall.ready_of_mem
    refine ⟨s', hrun.trans h, ?_⟩
    rcases makeAll_cases Session.reliable_host hstart hplain h with
      ⟨-, hall'⟩ | ⟨_, _, _, _, _, _, heq, -⟩
    · exact hall'.unique hall
    · cases heq

theorem artifacts_of_same_names (hnames : ∀ name, name ∈ p.names requested ↔ name ∈ p.names other)
    {languages : List Language} (h : p.languages requested = .ok languages) :
    ∃ languages', p.languages other = .ok languages' ∧
      ∀ a, a ∈ artifacts languages ↔ a ∈ artifacts languages' := by
  have hknown : ∃ languages', (p.names other).mapM p.generator.language = .ok languages' := by
    refine exists_mapM_eq_ok_iff.2 fun name hname => ?_
    exact exists_mapM_eq_ok_iff.1 ⟨languages, h⟩ name ((hnames name).2 hname)
  obtain ⟨languages', h'⟩ := hknown
  refine ⟨languages', h', fun a => ?_⟩
  rw [mem_artifacts_iff, mem_artifacts_iff, mem_languages_iff h, mem_languages_iff h']
  simp only [hnames]

theorem run_ok_of_same_names (hp : p.generator.Plain) (hdisk : s.disk = t.disk)
    (hnames : ∀ name, name ∈ p.names requested ↔ name ∈ p.names other) {s' : Session}
    (h : outcome (p.run Session.host requested) s = (.ok paths, s')) : ∃ paths' t',
      outcome (p.run Session.host other) t = (.ok paths', t') ∧ t'.disk = s'.disk := by
  obtain ⟨languages, made, hlanguages, hprepared, -, hall⟩ := (run_eq_ok_iff hp).1 ⟨s', h, rfl⟩
  obtain ⟨languages', hlanguages', hsame⟩ := artifacts_of_same_names hnames hlanguages
  exact ⟨_, (run_eq_ok_iff hp).2
    ⟨languages', made, hlanguages', hdisk ▸ hprepared, rfl, hall.congr hsame⟩⟩

theorem run_again (hp : p.generator.Plain) {s' : Session}
    (h : outcome (p.run Session.host requested) s = (.ok paths, s')) (ht : t.disk = s'.disk) :
    ∃ t', outcome (p.run Session.host requested) t = (.ok paths, t') ∧ t'.disk = t.disk := by
  obtain ⟨languages, made, hlanguages, hprepared, hpaths, hall⟩ := (run_eq_ok_iff hp).1 ⟨s', h, rfl⟩
  refine (run_eq_ok_iff hp).2 ⟨languages, t.disk, hlanguages, ?_, hpaths, ?_⟩
  · exact ht ▸ hprepared.again hall.directories
  · exact ht ▸ hall.again

/-- Runs for the same languages come to the same, in whatever order and however often each is asked
for, and making documents once more changes nothing. -/
theorem run_same_languages (hp : p.generator.Plain) (hdisk : s.disk = t.disk)
    (hnames : ∀ name, name ∈ p.names requested ↔ name ∈ p.names other) :
    ((∃ paths s', outcome (p.run Session.host requested) s = (.ok paths, s')) ↔
      ∃ paths t', outcome (p.run Session.host other) t = (.ok paths, t')) ∧
    ∀ paths s', outcome (p.run Session.host requested) s = (.ok paths, s') →
      (∀ paths' t', outcome (p.run Session.host other) t = (.ok paths', t') →
        t'.disk = s'.disk) ∧
      ∀ r, r.disk = s'.disk → ∃ r', outcome (p.run Session.host requested) r = (.ok paths, r') ∧
        r'.disk = r.disk := by
  refine ⟨⟨fun ⟨paths, s', h⟩ => ?_, fun ⟨paths, t', h⟩ => ?_⟩, fun paths s' h =>
    ⟨fun paths' t' h' => ?_, fun r hr => run_again hp h hr⟩⟩
  · obtain ⟨paths', t', h', -⟩ := run_ok_of_same_names hp hdisk hnames h
    exact ⟨paths', t', h'⟩
  · obtain ⟨paths', s', h', -⟩ :=
      run_ok_of_same_names hp hdisk.symm (fun name => (hnames name).symm) h
    exact ⟨paths', s', h'⟩
  · obtain ⟨paths'', t'', h'', heq⟩ := run_ok_of_same_names hp hdisk hnames h
    cases h'.symm.trans h''
    exact heq

/-- Two languages, in one order and then in the other with one of them twice; and once more. -/
theorem run_same_languages_small : ∃ paths paths' s' t' r',
    outcome (small.run Session.host [['a'], ['b']]) ⟨smallTree, []⟩ = (.ok paths, s') ∧
      outcome (small.run Session.host [['b'], ['a'], ['a']]) ⟨smallTree, []⟩ = (.ok paths', t') ∧
        t'.disk = s'.disk ∧
          outcome (small.run Session.host [['a'], ['b']]) s' = (.ok paths, r') ∧
            r'.disk = s'.disk := by
  have hsame (name : Text) : name ∈ small.names [['a'], ['b']] ↔
      name ∈ small.names [['b'], ['a'], ['a']] := by
    simp [names, or_comm]
  have hrun : (outcome (small.run Session.host [['a'], ['b']]) ⟨smallTree, []⟩).1 =
      .ok ["../o/a.tmLanguage.json".toList, "n/a-configuration.json".toList,
        "../o/b.tmLanguage.json".toList] := ok_of_toOption (by decide +kernel)
  obtain ⟨hsuccess, hresult⟩ := run_same_languages (s := ⟨smallTree, []⟩) (t := ⟨smallTree, []⟩)
    plain_small rfl hsame
  obtain ⟨paths', t', hother⟩ := hsuccess.1 ⟨_, _, Prod.ext hrun rfl⟩
  obtain ⟨hdisk, hagain⟩ := hresult _ _ (Prod.ext hrun rfl)
  obtain ⟨r', hrepeated, hkept⟩ := hagain _ rfl
  exact ⟨_, paths', _, t', r', Prod.ext hrun rfl, hother, hdisk paths' t' hother, hrepeated, hkept⟩

end Highlight.Production
