import Highlight.Proofs.Production.Step

/-!
Documents one after another. What has become of a tree after some of them can be told from the tree
in which the first began: their files hold what the templates made at that time, their temporaries
are gone, and nothing else has changed. So it does not matter to a document which others were made
before it.
-/

namespace Highlight.Production

open Disk (SameDirectories Installs Cleared)

variable {p : Production} {made d d' : Disk} {done list : List (Language × DocumentKind)}
  {a : Language × DocumentKind} {language other : Language} {kind : DocumentKind} {document : Text}
  {place : Address}

theorem Makes.of_name (h : p.Makes d language kind document) (hname : language.name = other.name) :
    p.Makes d other kind document := by
  obtain ⟨⟨template, hread, hgenerate⟩, hvalid⟩ := h
  have htemplate : language.template kind = other.template kind := by
    rw [Language.template_eq, Language.template_eq, hname]
  rw [Settings.templatePath, htemplate] at hread
  rw [hname] at hgenerate
  exact ⟨⟨template, hread, hgenerate⟩, hvalid⟩

/-- The tree in which some documents have been made, told from the tree in which they began. -/
structure Completed (p : Production) (made : Disk) (done : List (Language × DocumentKind))
    (d : Disk) : Prop where
  plain : ∀ a ∈ done, '/' ∉ a.1.name
  document : ∀ a ∈ done, ∃ document target, p.Makes made a.1 a.2 document ∧
    made.locate (p.settings.outputPath a.1 a.2) = .ok target ∧
      d.entry? target = some (.file (.text document))
  temporary : ∀ a ∈ done, ∃ source,
    made.locate (p.settings.temporaryPath a.1 a.2) = .ok source ∧ d.entry? source = none
  others : ∀ place, (∀ a ∈ done, made.locate (p.settings.outputPath a.1 a.2) ≠ .ok place ∧
    made.locate (p.settings.temporaryPath a.1 a.2) ≠ .ok place) →
      d.entries.get? place = made.entries.get? place
  directories : SameDirectories made d

namespace Completed

theorem nil (p : Production) (made : Disk) : p.Completed made [] made where
  plain := nofun
  document := nofun
  temporary := nofun
  others _ _ := rfl
  directories := .refl

theorem template (h : p.Completed made done d) (hlanguage : '/' ∉ language.name)
    (hplace : made.locate (p.settings.templatePath language kind) = .ok place) :
    d.entry? place = made.entry? place :=
  Disk.entry?_congr <| h.others place fun a ha =>
    ⟨fun houtput =>
        Settings.template_place_ne_output hlanguage (h.plain a ha) hplace houtput rfl,
      fun htemporary =>
        Settings.template_place_ne_temporary hlanguage (h.plain a ha) hplace htemporary rfl⟩

theorem makes_iff (h : p.Completed made done d) (hlanguage : '/' ∉ language.name) :
    p.Makes d language kind document ↔ p.Makes made language kind document := by
  have hread (template : Text) :
      d.read (p.settings.templatePath language kind) = .ok template ↔
        made.read (p.settings.templatePath language kind) = .ok template := by
    simp only [Disk.read_eq_ok_iff, h.directories.locate_iff]
    refine exists_congr fun place => and_congr_right fun hplace => ?_
    rw [h.template hlanguage hplace]
  constructor
  · rintro ⟨⟨template, htemplate, hgenerate⟩, hvalid⟩
    exact ⟨⟨template, (hread template).1 htemplate, hgenerate⟩, hvalid⟩
  · rintro ⟨⟨template, htemplate, hgenerate⟩, hvalid⟩
    exact ⟨⟨template, (hread template).2 htemplate, hgenerate⟩, hvalid⟩

/-- One more document leaves those before it as they are. -/
theorem snoc (h : p.Completed made done d) (ha : '/' ∉ a.1.name)
    (hmakes : p.Makes d a.1 a.2 document)
    (hinstalls : Installs (p.settings.temporaryPath a.1 a.2) (p.settings.outputPath a.1 a.2)
      document d d') : p.Completed made (done ++ [a]) d' := by
  obtain ⟨source, target, hsource, htarget, hsource_free, htarget_free, rfl⟩ := hinstalls
  have hentry := Disk.entry?_install hsource_free htarget_free (.text document)
  rw [h.directories.locate_iff] at hsource htarget
  rw [h.makes_iff ha] at hmakes
  refine
    { plain := List.forall_mem_append.2 ⟨h.plain, List.forall_mem_singleton.2 ha⟩
      document := fun b hb => ?_
      temporary := fun b hb => ?_
      others := fun place hplace => ?_
      directories :=
        h.directories.trans (Disk.sameDirectories_install hsource_free htarget_free) }
  · rcases List.mem_append.1 hb with hb | hb
    · obtain ⟨document', target', hmakes', htarget', hwritten⟩ := h.document b hb
      refine ⟨document', target', hmakes', htarget', ?_⟩
      rw [hentry]
      split
      · next heq =>
          -- the same document once more
          rw [heq] at htarget
          obtain ⟨hname, hkind⟩ :=
            Settings.output_place_injective ha (h.plain b hb) htarget htarget'
          rw [hkind] at hmakes
          rw [(hmakes.of_name hname).unique hmakes']
      · rw [if_neg (Settings.output_place_ne_temporary (h.plain b hb) ha htarget' hsource).symm]
        exact hwritten
    · cases List.mem_singleton.1 hb
      exact ⟨document, target, hmakes, htarget, (hentry target).trans (if_pos rfl)⟩
  · have hne {source' : Address}
        (hb : '/' ∉ b.1.name)
        (hsource' : made.locate (p.settings.temporaryPath b.1 b.2) = .ok source') :
        target ≠ source' :=
      Settings.output_place_ne_temporary ha hb htarget hsource'
    rcases List.mem_append.1 hb with hb | hb
    · obtain ⟨source', hsource', hgone⟩ := h.temporary b hb
      refine ⟨source', hsource', ?_⟩
      rw [hentry, if_neg (hne (h.plain b hb) hsource'), hgone, ite_self]
    · cases List.mem_singleton.1 hb
      refine ⟨source, hsource, ?_⟩
      rw [hentry, if_neg (hne ha hsource), if_pos rfl]
  · obtain ⟨houtput, htemporary⟩ := hplace a (List.mem_append_right _ (List.mem_singleton_self a))
    have hkept := h.others place fun b hb => hplace b (List.mem_append_left _ hb)
    rw [Disk.get?_install, if_neg, if_neg, hkept]
    · rintro rfl
      exact htemporary hsource
    · rintro rfl
      exact houtput htarget

end Completed

section Run

variable {σ : Type} {host : Host (StateM σ)} {disk : σ → Disk} {s s' : σ}

/-- All that making documents in order can do. -/
theorem makeAll_cases (hhost : host.Reliable disk) (h : p.Completed made done (disk s))
    (hlist : ∀ a ∈ list, '/' ∉ a.1.name)
    {result : Except Error (List Text)} (hrun : outcome (p.makeAll host list) s = (result, s')) :
    (result = .ok (list.map fun a => p.settings.outputPath a.1 a.2) ∧
      p.Completed made (done ++ list) (disk s')) ∨
    ∃ before a after cause d, list = before ++ a :: after ∧
      result = .error (.language a.1.name cause) ∧ cause.IsCause ∧
        p.Completed made (done ++ before) d ∧
          Cleared (p.settings.temporaryPath a.1 a.2) d (disk s') := by
  induction list generalizing done s s' result with
  | nil =>
      cases hrun
      exact .inl ⟨rfl, (List.append_nil done).symm ▸ h⟩
  | cons a list ih =>
      obtain ⟨language, kind⟩ := a
      obtain ⟨ha, hlist⟩ := List.forall_mem_cons.1 hlist
      rw [makeAll, outcome_bind, outcome_adapt] at hrun
      cases hdocument : outcome (p.makeDocument host language kind) s with
      | mk made s₁ =>
          rw [hdocument] at hrun
          rcases makeDocument_cases hhost hdocument with
            ⟨document, rfl, hmakes, hinstalls⟩ | ⟨e, cause, rfl, hnamed, hcause, hcleared⟩
          · have hnext := h.snoc ha hmakes hinstalls
            dsimp only [Except.mapError] at hrun
            rw [outcome_bind] at hrun
            cases hrest : outcome (p.makeAll host list) s₁ with
            | mk rest s₂ =>
                rw [hrest] at hrun
                rcases ih hnext hlist hrest with
                  ⟨rfl, hall⟩ | ⟨before, a, after, cause, d, rfl, rfl, hcause, hbefore, hcleared⟩
                · cases hrun
                  rw [List.append_cons]
                  exact .inl ⟨rfl, hall⟩
                · cases hrun
                  rw [List.append_assoc] at hbefore
                  exact .inr ⟨(language, kind) :: before, a, after, cause, d, rfl, rfl, hcause,
                    hbefore, hcleared⟩
          · cases hrun
            refine .inr ⟨[], _, list, cause, disk s, rfl, ?_, hcause, ?_, hcleared⟩
            · exact congrArg Except.error hnamed
            · rwa [List.append_nil]

end Run

end Highlight.Production
