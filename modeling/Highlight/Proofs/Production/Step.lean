import Highlight.Proofs.Host
import Highlight.Proofs.Production.Causes
import Highlight.Proofs.Production.Names

/-!
One document. On a reliable host, making a document either puts the text that its template makes
into its file, by way of the temporary, or ends with a cause under the name of its language; then
at most a temporary has gone, and all else is as it was.
-/

namespace Highlight

/-- A file comes to its path by way of another one. -/
def Disk.Installs (temporary path text : Text) (d d' : Disk) : Prop :=
  ∃ source target, d.locate temporary = .ok source ∧ d.locate path = .ok target ∧
    ¬d.IsDirectory source ∧ ¬d.IsDirectory target ∧ d' = d.install source target (.text text)

namespace Production

/-- The text that is made of a template as it stands in a tree. -/
structure Makes (p : Production) (d : Disk) (language : Language) (kind : DocumentKind)
    (document : Text) : Prop where
  generated : ∃ template, d.read (p.settings.templatePath language kind) = .ok template ∧
    p.generator.generate kind language.name template = .ok document
  valid : (Json.read? document).isSome

theorem Makes.unique {p : Production} {d : Disk} {language : Language} {kind : DocumentKind}
    {document document' : Text} (h : p.Makes d language kind document)
    (h' : p.Makes d language kind document') : document = document' := by
  obtain ⟨template, hread, hgenerate⟩ := h.generated
  obtain ⟨template', hread', hgenerate'⟩ := h'.generated
  cases hread.symm.trans hread'
  exact Except.ok.inj (hgenerate.symm.trans hgenerate')

section Step

variable {σ : Type} {host : Host (StateM σ)} {disk : σ → Disk} {s s' : σ}

theorem reportAll_cases (hhost : host.Reliable disk) {entries : List Log.Entry}
    (h : host.reportAll entries s = ((), s')) : disk s' = disk s := by
  induction entries generalizing s with
  | nil =>
      cases h
      rfl
  | cons entry entries ih => exact (ih h).trans (hhost.report rfl)

theorem note_cases (hhost : host.Reliable disk) {level : Log.Level} {text : Text}
    {result : Except Error Unit} (h : outcome (note host level text) s = (result, s')) :
    result = .ok () ∧ disk s' = disk s := by
  cases (outcome_lift _ _).symm.trans h
  exact ⟨rfl, hhost.report rfl⟩

theorem readTemplate_cases (hhost : host.Reliable disk) {path : Text}
    {result : Except Error Text} (h : outcome (readTemplate host path) s = (result, s')) :
    disk s' = disk s ∧
      ((∃ text, result = .ok text ∧ (disk s).read path = .ok text) ∨
        ∃ e, result = .error e ∧ e.IsCause) := by
  cases hnote : outcome (note host .debug ("reading ".toList ++ path)) s with
  | mk noted s₁ =>
      obtain ⟨rfl, hsame⟩ := note_cases hhost hnote
      obtain ⟨hkept, hanswer⟩ := hhost.read (Eq.refl (host.read path s₁))
      rw [hsame] at hkept hanswer
      rw [readTemplate, outcome_bind, hnote, Host.readInput] at h
      dsimp only at h
      rw [outcome_lift_bind] at h
      split at h
      · next text heq =>
          cases h
          exact ⟨hkept, .inl ⟨text, rfl, hanswer text heq⟩⟩
      · cases h
        exact ⟨hkept, .inr ⟨_, rfl, nofun⟩⟩
      · cases h
        exact ⟨hkept, .inr ⟨_, rfl, nofun⟩⟩

/-- All that saving a file can do. -/
theorem save_cases (hhost : host.Reliable disk) {temporary path text : Text}
    {result : Except Error Unit} (h : outcome (save host temporary path text) s = (result, s')) :
    result = .ok () ∧ Disk.Installs temporary path text (disk s) (disk s') ∨
      result = .error .inputOutput ∧ Disk.Cleared temporary (disk s) (disk s') := by
  rw [save, outcome_lift_bind] at h
  cases hwrite : host.write temporary text s with
  | mk written s₁ =>
      rw [hwrite] at h
      cases written with
      | false =>
          -- a part of the file at most, which is removed
          cases h
          have hremove := hhost.remove (Eq.refl (host.remove temporary s₁))
          refine .inr ⟨rfl, ?_⟩
          rcases hhost.write_failed hwrite with hsame | ⟨place, part, hplace, hentry, hpart⟩
          · rw [hsame] at hremove
            exact hremove ▸ Disk.cleared_remove (disk s) temporary
          · rw [hpart] at hremove
            exact hremove ▸ Disk.cleared_remove_put hplace hentry
      | true =>
          have hwritten := hhost.write hwrite
          rw [if_pos rfl, outcome_lift_bind] at h
          cases hrename : host.rename temporary path s₁ with
          | mk renamed s₂ =>
              rw [hrename] at h
              cases renamed with
              | false =>
                  -- the whole file under its temporary name, which is removed
                  cases h
                  have hremove := hhost.remove (Eq.refl (host.remove temporary s₂))
                  obtain ⟨place, hplace, hentry, hput⟩ := Disk.write_eq_some_iff.1 hwritten
                  rw [hhost.rename_failed hrename, hput] at hremove
                  exact .inr ⟨rfl, hremove ▸ Disk.cleared_remove_put hplace hentry⟩
              | true =>
                  obtain ⟨rfl, hsame⟩ := note_cases hhost h
                  refine .inl ⟨rfl, ?_⟩
                  rw [hsame]
                  exact Disk.write_rename_iff.1 ⟨_, hwritten, hhost.rename hrename⟩

/-- All that making a document can do. -/
theorem makeDocument_cases (hhost : host.Reliable disk) {p : Production} {language : Language}
    {kind : DocumentKind} {result : Except Error Text}
    (h : outcome (p.makeDocument host language kind) s = (result, s')) :
    (∃ document, result = .ok (p.settings.outputPath language kind) ∧
      p.Makes (disk s) language kind document ∧
      Disk.Installs (p.settings.temporaryPath language kind) (p.settings.outputPath language kind)
        document (disk s) (disk s')) ∨
    ∃ e cause, result = .error e ∧ e.inLanguage language.name = .language language.name cause ∧
      cause.IsCause ∧
      Disk.Cleared (p.settings.temporaryPath language kind) (disk s) (disk s') := by
  rw [makeDocument, outcome_bind] at h
  cases htemplate : outcome (readTemplate host (p.settings.templatePath language kind)) s with
  | mk answer s₁ =>
      rw [htemplate] at h
      obtain ⟨hread, ⟨template, rfl, hcontents⟩ | ⟨cause, rfl, hcause⟩⟩ :=
        readTemplate_cases hhost htemplate
      · dsimp only at h
        rw [outcome_lift_bind] at h
        cases hreport : host.reportAll (p.generator.report (language.slots kind) template) s₁ with
        | mk _ s₂ =>
            have hreported := (reportAll_cases hhost hreport).trans hread
            rw [hreport, outcome_bind, outcome_liftExcept] at h
            cases hdocument : p.generator.generate kind language.name template with
            | error e =>
                -- generation names the language itself
                obtain ⟨cause, rfl, hcause⟩ := Generator.generate_eq_error hdocument
                rw [hdocument] at h
                cases h
                exact .inr ⟨_, cause, rfl, rfl, hcause, .of_eq hreported⟩
            | ok document =>
                rw [hdocument] at h
                by_cases hvalid : (Json.read? document).isNone
                · simp only [if_pos hvalid, outcome_throw_bind] at h
                  cases h
                  exact .inr ⟨_, .invalidOutput, rfl, rfl, nofun, .of_eq hreported⟩
                · have hmakes : p.Makes (disk s) language kind document :=
                    ⟨⟨template, hcontents, hdocument⟩,
                      by simpa [Option.isSome_iff_ne_none] using hvalid⟩
                  simp only [if_neg hvalid, outcome_bind] at h
                  cases hsave : outcome (save host (p.settings.temporaryPath language kind)
                      (p.settings.outputPath language kind) document) s₂ with
                  | mk saved s₃ =>
                      rw [hsave] at h
                      rcases save_cases hhost hsave with ⟨rfl, hinstalls⟩ | ⟨rfl, hcleared⟩
                      · cases h
                        exact .inl ⟨document, rfl, hmakes, hreported ▸ hinstalls⟩
                      · cases h
                        exact .inr ⟨_, .inputOutput, rfl, rfl, nofun, hreported ▸ hcleared⟩
      · cases h
        exact .inr ⟨cause, cause, rfl, Error.isCause_iff.1 hcause _, hcause, .of_eq hread⟩

end Step
end Production
end Highlight
