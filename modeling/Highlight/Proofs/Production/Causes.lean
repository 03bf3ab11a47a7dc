import Highlight.Generator
import Highlight.Proofs.Template.Piecewise

/-!
Whose error it is. Whatever goes wrong while a document is generated is named for its language
once: the parts that a document is made of never name a language themselves.
-/

namespace Highlight

namespace Error

/-- An error that names no language. -/
def IsCause (e : Error) : Prop := ∀ name cause, e ≠ .language name cause

/-- Just the errors that name no language are put under one. -/
theorem isCause_iff {e : Error} : e.IsCause ↔ ∀ name, e.inLanguage name = .language name e := by
  constructor
  · intro h name
    cases e with
    | language other cause => exact absurd rfl (h other cause)
    | _ => rfl
  · rintro h name cause rfl
    have hnamed : language name cause = .language [] (.language name cause) := h []
    cases hnamed

end Error

namespace Generator

variable {g : Generator} {e : Error}

theorem exists_pairGrammar (context : PairContext) : ∃ pair, context.pairGrammar = .ok pair := by
  cases context <;> exact ⟨_, rfl⟩

theorem exists_content (g : Generator) (slot : Slot) : ∃ content, g.content slot = .ok content := by
  cases slot with
  | pairs context =>
      obtain ⟨pair, hpair⟩ := exists_pairGrammar context
      rw [content, fragments, hpair]
      exact ⟨_, rfl⟩
  | expressions => exact ⟨_, rfl⟩
  | wordPattern => exact ⟨_, rfl⟩

theorem isCause_insert {s : Substitutions} {name : Text} {content : Content}
    (h : s.insert name content = .error e) : e.IsCause := by
  rw [Substitutions.insert] at h
  split at h
  · cases h
    exact Error.isCause_iff.2 fun _ => rfl
  · split at h
    · cases h
      exact Error.isCause_iff.2 fun _ => rfl
    · cases h

theorem isCause_fillSlots {s : Substitutions} {slots : List Slot}
    (h : g.fillSlots s slots = .error e) : e.IsCause := by
  induction slots generalizing s with
  | nil => cases h
  | cons slot slots ih =>
      rw [fillSlots] at h
      rcases bind_eq_error_iff.1 h with h | ⟨content, -, h⟩
      · obtain ⟨content, hcontent⟩ := exists_content g slot
        cases hcontent.symm.trans h
      · rcases bind_eq_error_iff.1 h with h | ⟨filled, -, h⟩
        · exact isCause_insert h
        · exact ih h

theorem isCause_compose {c : Compositor} {template : Template}
    (h : c.compose template = .error e) : e.IsCause := by
  rw [Compositor.compose] at h
  split at h
  · cases h
    exact Error.isCause_iff.2 fun _ => rfl
  · rcases bind_eq_error_iff.1 h with h | ⟨filled, -, h⟩
    · obtain ⟨name, -, rfl⟩ := Compositor.fill_eq_error_iff.1 h
      exact Error.isCause_iff.2 fun _ => rfl
    · rcases bind_eq_error_iff.1 h with h | ⟨resolved, -, h⟩
      · obtain ⟨tag, -, rfl⟩ := (c.styles.resolvePieces_eq_error_iff).1 h
        exact Error.isCause_iff.2 fun _ => rfl
      · split at h
        · cases h
          exact Error.isCause_iff.2 fun _ => rfl
        · cases h

theorem isCause_document {slots : List Slot} {template : Text}
    (h : g.document slots template = .error e) : e.IsCause := by
  rw [document] at h
  rcases bind_eq_error_iff.1 h with h | ⟨substitutions, -, h⟩
  · exact isCause_fillSlots h
  · rcases bind_eq_error_iff.1 h with h | ⟨compositor, -, h⟩
    · rw [Compositor.make] at h
      split at h
      · cases h
        exact Error.isCause_iff.2 fun _ => rfl
      · cases h
    · exact isCause_compose h

theorem isCause_language {name : Text} (h : g.language name = .error e) : e.IsCause := by
  rw [language] at h
  split at h
  · cases h
  · cases h
    exact Error.isCause_iff.2 fun _ => rfl

/-- Generation fails with a cause under the name of its language. -/
theorem generate_eq_error {kind : DocumentKind} {name template : Text}
    (h : g.generate kind name template = .error e) :
    ∃ cause, e = .language name cause ∧ cause.IsCause := by
  obtain ⟨cause, hinner, rfl⟩ := mapError_eq_error_iff.1 h
  have hcause : cause.IsCause := by
    rcases bind_eq_error_iff.1 hinner with hinner | ⟨found, -, hinner⟩
    · exact isCause_language hinner
    · exact isCause_document hinner
  exact ⟨cause, Error.isCause_iff.1 hcause name, hcause⟩

end Generator

end Highlight
