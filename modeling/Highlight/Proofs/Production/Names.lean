import Highlight.Production
import Highlight.Proofs.Dictionary
import Highlight.Proofs.Disk.Places
import Highlight.Proofs.Outcome

/-!
The names of files. A document, its temporary and the templates of all languages have names that
differ in their ends, so that as long as no language has a slash in its name, none of them ever
stands in the place of another.
-/

namespace Highlight

/-- Texts with different ends are different, if neither end is an end of the other. -/
theorem append_ne_append {front front' back back' : Text} (hlength : back.length ≤ back'.length)
    (hback : ¬back <:+ back') : front ++ back ≠ front' ++ back' := by
  intro heq
  have hsuffix : back <:+ front' ++ back' := heq ▸ List.suffix_append front back
  exact hback (List.suffix_of_suffix_length_le hsuffix (List.suffix_append front' back') hlength)

namespace Language

variable {language other : Language} {kind kind' : DocumentKind}

def outputEnd : DocumentKind → Text
  | .grammar => ".tmLanguage.json".toList
  | .configuration => "-configuration.json".toList

def templateEnd : DocumentKind → Text
  | .grammar => ".tmLanguage.template.json".toList
  | .configuration => "-configuration.template.json".toList

theorem output_eq (language : Language) (kind : DocumentKind) :
    language.output kind = language.name ++ outputEnd kind := by cases kind <;> rfl

theorem template_eq (language : Language) (kind : DocumentKind) :
    language.template kind = language.name ++ templateEnd kind := by cases kind <;> rfl

theorem temporary_eq (language : Language) (kind : DocumentKind) :
    Path.temporary (language.output kind) =
      ('.' :: language.name) ++ (outputEnd kind ++ ".tmp".toList) := by
  rw [Path.temporary, output_eq, ← List.cons_append, List.append_assoc]

theorem output_injective (h : language.output kind = other.output kind') :
    language.name = other.name ∧ kind = kind' := by
  rw [output_eq, output_eq] at h
  cases kind <;> cases kind'
  · exact ⟨List.append_cancel_right h, rfl⟩
  · exact absurd h (append_ne_append (by decide) (by decide))
  · exact absurd h.symm (append_ne_append (by decide) (by decide))
  · exact ⟨List.append_cancel_right h, rfl⟩

theorem output_ne_temporary : language.output kind ≠ Path.temporary (other.output kind') := by
  rw [output_eq, temporary_eq]
  cases kind <;> cases kind' <;> exact append_ne_append (by decide) (by decide)

theorem template_ne_output : language.template kind ≠ other.output kind' := by
  rw [template_eq, output_eq]
  cases kind <;> cases kind' <;> exact (append_ne_append (by decide) (by decide)).symm

theorem template_ne_temporary : language.template kind ≠ Path.temporary (other.output kind') := by
  rw [template_eq, temporary_eq]
  cases kind <;> cases kind' <;> exact (append_ne_append (by decide) (by decide)).symm

theorem isName_append {ending : Text} (h : '/' ∉ language.name) (hlength : 2 < ending.length)
    (hplain : '/' ∉ ending) : Path.IsName (language.name ++ ending) := by
  refine Path.isName_of_length ?_ ?_
  · rw [List.length_append]
    omega
  · rw [List.mem_append, not_or]
    exact ⟨h, hplain⟩

theorem isName_output (h : '/' ∉ language.name) (kind : DocumentKind) :
    Path.IsName (language.output kind) := by
  rw [output_eq]
  cases kind <;> exact isName_append h (by decide) (by decide)

theorem isName_template (h : '/' ∉ language.name) (kind : DocumentKind) :
    Path.IsName (language.template kind) := by
  rw [template_eq]
  cases kind <;> exact isName_append h (by decide) (by decide)

end Language

namespace Settings

variable {settings : Settings} {d : Disk} {language other : Language} {kind kind' : DocumentKind}
  {place place' : Address}

theorem output_place (h : '/' ∉ language.name)
    (hplace : d.locate (settings.outputPath language kind) = .ok place) :
    ∃ parent, d.Reaches (settings.outputs kind) parent ∧
      place = language.output kind :: parent := by
  obtain ⟨-, -, hall⟩ := (Disk.locate_join_eq_ok_iff (Language.isName_output h kind)).1 hplace
  exact hall

theorem temporary_place (h : '/' ∉ language.name)
    (hplace : d.locate (settings.temporaryPath language kind) = .ok place) :
    ∃ parent, d.Reaches (settings.outputs kind) parent ∧
      place = Path.temporary (language.output kind) :: parent := by
  have hplain := (Language.isName_output h kind).plain
  obtain ⟨-, -, hall⟩ := (Disk.locate_joinTemporary_eq_ok_iff hplain).1 hplace
  exact hall

theorem template_place (h : '/' ∉ language.name)
    (hplace : d.locate (settings.templatePath language kind) = .ok place) :
    ∃ parent, place = language.template kind :: parent := by
  obtain ⟨-, -, parent, -, hplace⟩ :=
    (Disk.locate_join_eq_ok_iff (Language.isName_template h kind)).1 hplace
  exact ⟨parent, hplace⟩

theorem temporary_place_of_output (h : '/' ∉ language.name) {parent : Address}
    (hplace : d.locate (settings.outputPath language kind) = .ok (language.output kind :: parent))
    (hplace' : d.locate (settings.temporaryPath language kind) = .ok place) :
    place = Path.temporary (language.output kind) :: parent := by
  obtain ⟨first, hfirst, heq⟩ := output_place h hplace
  obtain ⟨second, hsecond, rfl⟩ := temporary_place h hplace'
  cases hfirst.unique hsecond
  cases heq
  rfl

theorem output_place_injective (h : '/' ∉ language.name) (h' : '/' ∉ other.name)
    (hplace : d.locate (settings.outputPath language kind) = .ok place)
    (hplace' : d.locate (settings.outputPath other kind') = .ok place) :
    language.name = other.name ∧ kind = kind' := by
  obtain ⟨_, _, rfl⟩ := output_place h hplace
  obtain ⟨_, _, heq⟩ := output_place h' hplace'
  exact Language.output_injective (List.cons.inj heq).1

theorem output_place_ne_temporary (h : '/' ∉ language.name) (h' : '/' ∉ other.name)
    (hplace : d.locate (settings.outputPath language kind) = .ok place)
    (hplace' : d.locate (settings.temporaryPath other kind') = .ok place') : place ≠ place' := by
  obtain ⟨_, _, rfl⟩ := output_place h hplace
  obtain ⟨_, _, rfl⟩ := temporary_place h' hplace'
  exact fun heq => Language.output_ne_temporary (List.cons.inj heq).1

theorem template_place_ne_output (h : '/' ∉ language.name) (h' : '/' ∉ other.name)
    (hplace : d.locate (settings.templatePath language kind) = .ok place)
    (hplace' : d.locate (settings.outputPath other kind') = .ok place') : place ≠ place' := by
  obtain ⟨_, rfl⟩ := template_place h hplace
  obtain ⟨_, _, rfl⟩ := output_place h' hplace'
  exact fun heq => Language.template_ne_output (List.cons.inj heq).1

theorem template_place_ne_temporary (h : '/' ∉ language.name) (h' : '/' ∉ other.name)
    (hplace : d.locate (settings.templatePath language kind) = .ok place)
    (hplace' : d.locate (settings.temporaryPath other kind') = .ok place') : place ≠ place' := by
  obtain ⟨_, rfl⟩ := template_place h hplace
  obtain ⟨_, _, rfl⟩ := temporary_place h' hplace'
  exact fun heq => Language.template_ne_temporary (List.cons.inj heq).1

end Settings

/-- Every language is registered under its own name, which holds no slash. This holds of whatever
settings describe, by `Production.plain_ofSettings`. -/
def Generator.Plain (g : Generator) : Prop :=
  ∀ name language, g.languages.get? name = some language → language.name = name ∧ '/' ∉ name

namespace Generator

variable {g : Generator}

theorem language_eq_ok_iff {name : Text} {language : Language} :
    g.language name = .ok language ↔ g.languages.get? name = some language := by
  rw [Generator.language]
  split
  · next heq => rw [heq, Except.ok.injEq, Option.some.injEq]
  · next heq =>
      rw [heq]
      exact ⟨nofun, nofun⟩

theorem Plain.addLanguage {language : Language} (hg : g.Plain) (h : '/' ∉ language.name) :
    (g.addLanguage language).Plain := by
  intro name other hother
  rw [Generator.addLanguage, Dictionary.get?_insert] at hother
  split at hother
  · next heq =>
      cases hother
      exact ⟨heq, heq ▸ h⟩
  · exact hg name other hother

theorem Plain.addLanguages {languages : List Language} (hg : g.Plain)
    (h : ∀ language ∈ languages, '/' ∉ language.name) :
    (languages.foldl Generator.addLanguage g).Plain := by
  induction languages generalizing g with
  | nil => exact hg
  | cons language languages ih =>
      refine ih (hg.addLanguage (h language List.mem_cons_self)) fun other hother => ?_
      exact h other (List.mem_cons_of_mem _ hother)

theorem plain_builtin {validation : ValidationSettings} (h : builtin validation = .ok g) :
    g.Plain := by
  obtain ⟨attributes, -, h⟩ := bind_eq_ok_iff.1 h
  obtain ⟨styles, -, h⟩ := bind_eq_ok_iff.1 h
  obtain ⟨languages, hlanguages, h⟩ := bind_eq_ok_iff.1 h
  cases h
  have hmake : (make attributes styles validation).Plain := nofun
  refine hmake.addLanguages ?_
  cases hlanguages
  exact forall_mem_of_all (by decide)

end Generator

namespace Production

variable {p : Production} {requested : List Text} {languages : List Language}
  {language other : Language}

/-- The names asked for, or those in the settings when none are. -/
def names (p : Production) (requested : List Text) : List Text :=
  if requested.isEmpty then p.settings.languages else requested

theorem mem_languages_iff (h : p.languages requested = .ok languages) : language ∈ languages ↔
    ∃ name ∈ p.names requested, p.generator.languages.get? name = some language := by
  simp only [mem_of_mapM_eq_ok h, Generator.language_eq_ok_iff]
  rfl

theorem languages_eq_error {name : Text}
    (h : FirstOf (· ∉ p.generator.names) (p.names requested) name) :
    p.languages requested = .error (.unknownLanguage name) := by
  have hunknown {name : Text} (hname : name ∉ p.generator.names) :
      p.generator.language name = .error (.unknownLanguage name) := by
    rw [Generator.language, Dictionary.get?_eq_none_iff.2 hname]
  change (p.names requested).mapM p.generator.language = _
  generalize p.names requested = names at h ⊢
  induction names with
  | nil => exact absurd h firstOf_nil
  | cons first names ih =>
      rw [List.mapM_cons]
      rcases firstOf_cons.1 h with ⟨hfirst, rfl⟩ | ⟨hfirst, hrest⟩
      · rw [hunknown hfirst]
        rfl
      · cases hfound : p.generator.languages.get? first with
        | none => exact absurd (Dictionary.get?_eq_none_iff.1 hfound) hfirst
        | some language =>
            rw [Generator.language_eq_ok_iff.2 hfound, ih hrest]
            rfl

theorem names_of_languages (hp : p.generator.Plain) (h : p.languages requested = .ok languages) :
    languages.map Language.name = p.names requested := by
  replace h := mapM_eq_ok_iff.1 h
  change (p.names requested).map p.generator.language = _ at h
  generalize p.names requested = names at h ⊢
  induction names generalizing languages with
  | nil =>
      cases List.map_eq_nil_iff.1 h.symm
      rfl
  | cons name names ih =>
      obtain ⟨language, languages, rfl, hlanguage, hrest⟩ := List.map_eq_cons_iff.1 h.symm
      have hfound := Generator.language_eq_ok_iff.1 hlanguage.symm
      rw [List.map_cons, ih hrest.symm, (hp name language hfound).1]

theorem plain_of_mem_languages (hp : p.generator.Plain)
    (h : p.languages requested = .ok languages) (hlanguage : language ∈ languages) :
    '/' ∉ language.name := by
  obtain ⟨name, -, hname⟩ := (mem_languages_iff h).1 hlanguage
  obtain ⟨rfl, hplain⟩ := hp name language hname
  exact hplain

theorem eq_of_mem_languages (hp : p.generator.Plain) (h : p.languages requested = .ok languages)
    (hlanguage : language ∈ languages) (hother : other ∈ languages)
    (hname : language.name = other.name) : language = other := by
  obtain ⟨name, -, hfound⟩ := (mem_languages_iff h).1 hlanguage
  obtain ⟨name', -, hfound'⟩ := (mem_languages_iff h).1 hother
  rw [← (hp name language hfound).1, hname] at hfound
  rw [← (hp name' other hfound').1] at hfound'
  exact Option.some.inj (hfound.symm.trans hfound')

/-- The languages of every production that settings describe stand under their own names. -/
theorem plain_ofSettings {settings : Settings} {p : Production}
    (h : Production.ofSettings settings = .ok p) : p.generator.Plain := by
  obtain ⟨g, hg, rfl⟩ := map_eq_ok_iff.1 h
  exact Generator.plain_builtin hg

theorem names_ofSettings {settings : Settings} (h : ofSettings settings = .ok p) :
    p.generator.names = ["sbml".toList, "sbss".toList] := by
  obtain ⟨g, hg, rfl⟩ := map_eq_ok_iff.1 h
  obtain ⟨attributes, -, hg⟩ := bind_eq_ok_iff.1 hg
  obtain ⟨styles, -, hg⟩ := bind_eq_ok_iff.1 hg
  obtain ⟨languages, hlanguages, hg⟩ := bind_eq_ok_iff.1 hg
  cases hlanguages
  cases hg
  rfl

end Production
end Highlight
