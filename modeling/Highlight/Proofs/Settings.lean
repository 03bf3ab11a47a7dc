import Highlight.Proofs.Toml
import Highlight.Settings

/-!
What a settings file says. Each entry decides one part of the settings and leaves the others alone;
since no key stands twice, every part is what its own entry says, or its default.
-/

namespace Highlight

open Toml (Item Entries)

/-- A value is what an item says, or a default if there is no item. -/
def Stated {β : Type} (found : Option Item) (value? : Item → Option β) (default value : β) : Prop :=
  (∀ item, found = some item → value? item = some value) ∧ (found = none → value = default)

/-- A part of a state that entries build: the key of the entry that decides it, what an item says of
it, and where the state keeps it. -/
structure Part (σ κ β : Type) where
  key : κ
  value? : Item → Option β
  get : σ → β

namespace Part

variable {σ κ β : Type} {part : Part σ κ β} {take : σ → κ × Item → Option σ} {s s' : σ}
  {entries : List (κ × Item)} {found : Option Item}

/-- An entry that is taken up decides the part with its key, and no other. -/
def Decided (part : Part σ κ β) (take : σ → κ × Item → Option σ) : Prop :=
  ∀ s entry s', take s entry = some s' →
    (entry.1 = part.key → part.value? entry.2 = some (part.get s')) ∧
      (entry.1 ≠ part.key → part.get s' = part.get s)

theorem get_of_foldlM (hpart : part.Decided take) (hkeys : (entries.map Prod.fst).Nodup)
    (h : entries.foldlM take s = some s') :
    (∀ item, (part.key, item) ∈ entries → part.value? item = some (part.get s')) ∧
      (part.key ∉ entries.map Prod.fst → part.get s' = part.get s) := by
  induction entries generalizing s with
  | nil =>
      cases h
      exact ⟨nofun, fun _ => rfl⟩
  | cons entry entries ih =>
      obtain ⟨next, hnext, hrest⟩ := Option.bind_eq_some_iff.1 h
      obtain ⟨hnew, hkeys⟩ := List.nodup_cons.1 hkeys
      obtain ⟨hown, hother⟩ := hpart s entry next hnext
      obtain ⟨hlisted, hunlisted⟩ := ih hkeys hrest
      constructor
      · intro item hmem
        rcases List.mem_cons.1 hmem with rfl | hmem
        · rw [hunlisted hnew]
          exact hown rfl
        · exact hlisted item hmem
      · intro hkey
        obtain ⟨hne, hkey⟩ := not_or.1 (mt List.mem_cons.2 hkey)
        rw [hunlisted hkey, hother (Ne.symm hne)]

/-- The part in the end is what the one entry for its key says. -/
theorem stated_of_foldlM (hpart : part.Decided take) (hkeys : (entries.map Prod.fst).Nodup)
    (hfound : ∀ item, found = some item ↔ (part.key, item) ∈ entries)
    (h : entries.foldlM take s = some s') :
    Stated found part.value? (part.get s) (part.get s') := by
  obtain ⟨hlisted, hunlisted⟩ := get_of_foldlM hpart hkeys h
  refine ⟨fun item hitem => hlisted item ((hfound item).1 hitem), fun hnone => ?_⟩
  refine hunlisted fun hmem => ?_
  obtain ⟨⟨key, item⟩, hentry, rfl⟩ := List.mem_map.1 hmem
  cases hnone.symm.trans ((hfound item).2 hentry)

end Part

namespace PairContext

theorem ofName?_eq_some_iff {name : Text} {context : PairContext} :
    ofName? name = some context ↔ name = context.name := by
  constructor
  · intro h
    simpa [eq_comm] using List.find?_some h
  · rintro rfl
    cases context <;> rfl

theorem name_inj {context other : PairContext} : context.name = other.name ↔ context = other := by
  constructor
  · intro h
    have hother := ofName?_eq_some_iff.2 h
    rw [ofName?_eq_some_iff.2 rfl] at hother
    exact Option.some.inj hother
  · exact congrArg name

def place : PairContext → Nat
  | list => 0
  | group => 1
  | inlineList => 2

theorem getElem?_place_iff {α : Type} {items : List α} {context : PairContext} {item : α} :
    items[context.place]? = some item ↔ (context, item) ∈ all.zip items := by
  match items with
  | [] => cases context <;> simp [place, all]
  | [_] => cases context <;> simp [place, all, eq_comm]
  | [_, _] => cases context <;> simp [place, all, eq_comm]
  | _ :: _ :: _ :: _ => cases context <;> simp [place, all, eq_comm]

theorem nodup_map_zip {α : Type} (items : List α) : ((all.zip items).map Prod.fst).Nodup := by
  match items with
  | [] | [_] | [_, _] | _ :: _ :: _ :: _ => simp [all]

end PairContext

namespace ValidationSettings

variable {settings settings' : ValidationSettings} {context other : PairContext}
  {validation : Validation} {item : Item} {entries : Entries} {items : List Item}

theorem get_set : (settings.set other validation).get context =
    if other = context then validation else settings.get context := by
  cases other <;> cases context <;> rfl

theorem ext_get (h : ∀ context, settings.get context = settings'.get context) :
    settings = settings' := by
  have hlist := h .list
  have hgroup := h .group
  have hinline := h .inlineList
  cases settings
  cases settings'
  simp_all [get]

def itemFor? (context : PairContext) : Item → Option Item
  | .inline entries | .table _ entries => Entries.get? entries context.name
  | .array items => items[context.place]?
  | .tables list => list[context.place]?.map (.table .header)
  | .string _ | .scalar => none

theorem stated_of_ofEntries? (hdistinct : entries.Distinct)
    (h : ofEntries? entries = some settings) (context : PairContext) :
    Stated (entries.get? context.name) Validation.ofItem? (get {} context)
      (settings.get context) := by
  let part : Part ValidationSettings Text Validation :=
    ⟨context.name, Validation.ofItem?, (·.get context)⟩
  refine part.stated_of_foldlM (fun s entry s' hs => ?_) hdistinct.keys
    (fun item => hdistinct.get?_eq_some_iff) h
  obtain ⟨own, hown, hs⟩ := Option.bind_eq_some_iff.1 hs
  obtain ⟨validation, hvalidation, rfl⟩ := Option.map_eq_some_iff.1 hs
  rw [PairContext.ofName?_eq_some_iff.1 hown]
  constructor
  · intro heq
    obtain rfl := PairContext.name_inj.1 heq
    exact hvalidation.trans (congrArg some (get_set.trans (if_pos rfl)).symm)
  · intro hne
    exact get_set.trans (if_neg fun heq => hne (congrArg PairContext.name heq))

theorem stated_of_ofItems? (h : ofItems? items = some settings) (context : PairContext) :
    Stated items[context.place]? Validation.ofItem? (get {} context) (settings.get context) := by
  let part : Part ValidationSettings PairContext Validation :=
    ⟨context, Validation.ofItem?, (·.get context)⟩
  refine part.stated_of_foldlM (fun s entry s' hs => ?_) (PairContext.nodup_map_zip items)
    (fun item => PairContext.getElem?_place_iff) h
  obtain ⟨validation, hvalidation, rfl⟩ := Option.map_eq_some_iff.1 hs
  constructor
  · intro heq
    exact hvalidation.trans (congrArg some (get_set.trans (if_pos heq)).symm)
  · intro hne
    exact get_set.trans (if_neg hne)

theorem stated_of_ofItem? (hitem : item.Distinct) (h : ofItem? item = some settings)
    (context : PairContext) :
    Stated (itemFor? context item) Validation.ofItem? (get {} context) (settings.get context) := by
  cases item with
  | string s => cases h
  | scalar => cases h
  | inline entries => exact stated_of_ofEntries? (Entries.distinct_of_inline hitem) h context
  | table origin entries => exact stated_of_ofEntries? (Entries.distinct_of_table hitem) h context
  | array items => exact stated_of_ofItems? h context
  | tables list =>
      have hplace := stated_of_ofItems? h context
      rw [List.getElem?_map] at hplace
      exact hplace

end ValidationSettings

inductive Directory
  | templates
  | syntaxes
  | configurations
  deriving DecidableEq, Repr

def Directory.key : Directory → Text
  | templates => "templates-dir".toList
  | syntaxes => "syntaxes-dir".toList
  | configurations => "languages-dir".toList

theorem Directory.key_inj {d other : Directory} : d.key = other.key ↔ d = other := by
  cases d <;> cases other <;> decide

namespace Settings

variable {settings settings' : Settings} {name text : Text} {item : Item} {entries : Entries}
  {d other : Directory}

def directory (settings : Settings) : Directory → Text
  | .templates => settings.templates
  | .syntaxes => settings.syntaxes
  | .configurations => settings.configurations

def put (settings : Settings) (place : Text) : Directory → Settings
  | .templates => { settings with templates := place }
  | .syntaxes => { settings with syntaxes := place }
  | .configurations => { settings with configurations := place }

theorem directory_put (settings : Settings) (place : Text) (d other : Directory) :
    (settings.put place d).directory other =
      if d = other then place else settings.directory other := by
  cases d <;> cases other <;> rfl

theorem ext_parts (hdirectory : ∀ d, settings.directory d = settings'.directory d)
    (hlanguages : settings.languages = settings'.languages)
    (hvalidation : ∀ context, settings.validation.get context = settings'.validation.get context) :
    settings = settings' := by
  have htemplates := hdirectory .templates
  have hsyntaxes := hdirectory .syntaxes
  have hconfigurations := hdirectory .configurations
  have hchecks := ValidationSettings.ext_get hvalidation
  cases settings
  cases settings'
  simp_all [directory]

theorem languages_put (settings : Settings) (place : Text) (d : Directory) :
    (settings.put place d).languages = settings.languages := by
  cases d <;> rfl

theorem validation_put (settings : Settings) (place : Text) (d : Directory) :
    (settings.put place d).validation = settings.validation := by
  cases d <;> rfl

def languagesKey : Text := "languages".toList

def validationKey : Text := "validation".toList

theorem key_ne_languagesKey (d : Directory) : d.key ≠ languagesKey := by
  cases d <;> decide

theorem key_ne_validationKey (d : Directory) : d.key ≠ validationKey := by
  cases d <;> decide

theorem cases_of_extend (h : settings.extend name item = some settings') :
    (∃ d place, name = d.key ∧ textOf? item = some place ∧ settings' = settings.put place d) ∨
      (∃ list, name = languagesKey ∧ textsOf? item = some list ∧
        settings' = { settings with languages := list }) ∨
      ∃ v, name = validationKey ∧ ValidationSettings.ofItem? item = some v ∧
        settings' = { settings with validation := v } := by
  have hdirectory (d : Directory) (hname : name = d.key)
      (hmap : (textOf? item).map (settings.put · d) = some settings') :
      ∃ d place, name = d.key ∧ textOf? item = some place ∧ settings' = settings.put place d := by
    obtain ⟨place, hplace, rfl⟩ := Option.map_eq_some_iff.1 hmap
    exact ⟨d, place, hname, hplace, rfl⟩
  rw [extend] at h
  split_ifs at h with htemplates hsyntaxes hconfigurations hlanguages hvalidation
  · exact .inl (hdirectory .templates htemplates h)
  · exact .inl (hdirectory .syntaxes hsyntaxes h)
  · exact .inl (hdirectory .configurations hconfigurations h)
  · obtain ⟨list, hlist, rfl⟩ := Option.map_eq_some_iff.1 h
    exact .inr (.inl ⟨list, hlanguages, hlist, rfl⟩)
  · obtain ⟨v, hv, rfl⟩ := Option.map_eq_some_iff.1 h
    exact .inr (.inr ⟨v, hvalidation, hv, rfl⟩)

def directoryPart (d : Directory) : Part Settings Text Text := ⟨d.key, textOf?, (·.directory d)⟩

def languagesPart : Part Settings Text (List Text) := ⟨languagesKey, textsOf?, (·.languages)⟩

def validationPart : Part Settings Text ValidationSettings :=
  ⟨validationKey, ValidationSettings.ofItem?, (·.validation)⟩

theorem decided_directory (d : Directory) :
    (directoryPart d).Decided fun settings entry => settings.extend entry.1 entry.2 := by
  intro s entry s' h
  obtain ⟨other, place, hkey, hplace, rfl⟩ | ⟨list, hkey, hlist, rfl⟩ | ⟨v, hkey, hv, rfl⟩ :=
    cases_of_extend h
  · constructor
    · intro heq
      have hsame := Directory.key_inj.1 (hkey.symm.trans heq)
      exact hplace.trans (congrArg some ((directory_put ..).trans (if_pos hsame)).symm)
    · intro hne
      exact (directory_put ..).trans (if_neg fun heq => hne (hkey.trans (congrArg _ heq)))
  · exact ⟨fun heq => absurd (heq.symm.trans hkey) (key_ne_languagesKey d),
      fun _ => by cases d <;> rfl⟩
  · exact ⟨fun heq => absurd (heq.symm.trans hkey) (key_ne_validationKey d),
      fun _ => by cases d <;> rfl⟩

theorem decided_languages :
    languagesPart.Decided fun settings entry => settings.extend entry.1 entry.2 := by
  intro s entry s' h
  obtain ⟨d, place, hkey, -, rfl⟩ | ⟨list, hkey, hlist, rfl⟩ | ⟨v, hkey, hv, rfl⟩ :=
    cases_of_extend h
  · exact ⟨fun heq => absurd (hkey.symm.trans heq) (key_ne_languagesKey d),
      fun _ => languages_put ..⟩
  · exact ⟨fun _ => hlist, fun hne => absurd hkey hne⟩
  · exact ⟨fun heq => absurd (hkey.symm.trans heq) (by decide), fun _ => rfl⟩

theorem decided_validation :
    validationPart.Decided fun settings entry => settings.extend entry.1 entry.2 := by
  intro s entry s' h
  obtain ⟨d, place, hkey, -, rfl⟩ | ⟨list, hkey, hlist, rfl⟩ | ⟨v, hkey, hv, rfl⟩ :=
    cases_of_extend h
  · exact ⟨fun heq => absurd (hkey.symm.trans heq) (key_ne_validationKey d),
      fun _ => validation_put ..⟩
  · exact ⟨fun heq => absurd (hkey.symm.trans heq) (by decide), fun _ => rfl⟩
  · exact ⟨fun _ => hv, fun hne => absurd hkey hne⟩

/-- Settings are what the entries of a file say; where there is no entry, they are the defaults. -/
structure Described (entries : Entries) (settings : Settings) : Prop where
  directory : ∀ d, Stated (entries.get? d.key) textOf? (({} : Settings).directory d)
    (settings.directory d)
  languages : Stated (entries.get? languagesKey) textsOf? ({} : Settings).languages
    settings.languages
  validation : ∀ context : PairContext,
    Stated ((entries.get? validationKey).bind (ValidationSettings.itemFor? context))
      Validation.ofItem? (ValidationSettings.get {} context) (settings.validation.get context)

theorem described_of_ofEntries? (hdistinct : entries.Distinct)
    (h : ofEntries? entries = some settings) : Described entries settings where
  directory d := Part.stated_of_foldlM (decided_directory d) hdistinct.keys
    (fun _ => hdistinct.get?_eq_some_iff) h
  languages := Part.stated_of_foldlM decided_languages hdistinct.keys
    (fun _ => hdistinct.get?_eq_some_iff) h
  validation context := by
    obtain ⟨hitem, hnone⟩ := Part.stated_of_foldlM decided_validation hdistinct.keys
      (fun _ => hdistinct.get?_eq_some_iff) h
    cases hget : entries.get? validationKey with
    | none =>
        refine ⟨fun item hfound => (by cases hfound), fun _ => ?_⟩
        exact congrArg (ValidationSettings.get · context) (hnone hget)
    | some item =>
        exact ValidationSettings.stated_of_ofItem? (hdistinct.get? hget) (hitem item hget) context

/-- A settings file that can be read is a table whose entries say what the settings are. -/
theorem described_of_read (h : read text = .ok settings) :
    ∃ entries, Toml.read? text = some entries ∧ Described entries settings := by
  rw [read] at h
  split at h
  · next found hfound =>
      cases h
      obtain ⟨entries, hentries, hsettings⟩ := Option.bind_eq_some_iff.1 hfound
      exact ⟨entries, hentries,
        described_of_ofEntries? (Toml.distinct_of_read? hentries) hsettings⟩
  · cases h

end Settings

end Highlight
