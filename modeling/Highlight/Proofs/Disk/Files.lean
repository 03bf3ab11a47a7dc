import Highlight.Proofs.Disk.Places
import Highlight.Proofs.Dictionary

/-!
Files under two names. A file that is written under its temporary name and then renamed leaves a
tree that differs in these two places only; if anything goes wrong on the way, removing the
temporary leaves at most its place empty. Either way the directories stay what they are, so that
paths keep their meaning.
-/

namespace Highlight.Disk

variable {d d' d'' : Disk} {place source target : Address} {path temporary text : Text}
  {contents : Contents}

theorem read_eq_ok_iff : d.read path = .ok text ↔
    ∃ place, d.locate path = .ok place ∧ d.entry? place = some (.file (.text text)) := by
  simp only [read, bind, Except.bind]
  cases d.locate path with
  | error fault => simp
  | ok place =>
      cases hentry : d.entry? place with
      | none => simp [hentry]
      | some entry =>
          cases entry with
          | directory => simp [hentry]
          | file contents =>
              cases contents with
              | text t => simp [hentry]
              | binary bytes => simp [hentry]

theorem write_eq_some_iff : d.write path text = some d' ↔
    ∃ place, d.locate path = .ok place ∧ ¬d.IsDirectory place ∧
      d' = d.put place (.file (.text text)) := by
  rw [write]
  cases d.locate path with
  | error fault => simp
  | ok place => simp [eq_comm]

theorem rename_eq_some_iff : d.rename temporary path = some d' ↔
    ∃ source target contents, d.locate temporary = .ok source ∧ d.locate path = .ok target ∧
      d.entry? source = some (.file contents) ∧ ¬d.IsDirectory target ∧
      d' = (d.erase source).put target (.file contents) := by
  rw [rename]
  cases d.locate temporary with
  | error fault => simp
  | ok source =>
      cases d.locate path with
      | error fault => simp
      | ok target =>
          cases hentry : d.entry? source with
          | none => simp [hentry]
          | some entry =>
              cases entry with
              | directory => simp [hentry]
              | file contents => simp [hentry, eq_comm]

structure SameDirectories (d d' : Disk) : Prop where
  here : d'.here = d.here
  isDirectory_iff : ∀ place, d'.IsDirectory place ↔ d.IsDirectory place

namespace SameDirectories

theorem refl : SameDirectories d d := ⟨rfl, fun _ => Iff.rfl⟩

theorem trans (h : SameDirectories d d') (h' : SameDirectories d' d'') : SameDirectories d d'' :=
  ⟨h'.here.trans h.here, fun place => (h'.isDirectory_iff place).trans (h.isDirectory_iff place)⟩

theorem keeps (h : SameDirectories d d') : d.Keeps d' := ⟨h.here, (h.isDirectory_iff _).2⟩

theorem symm_keeps (h : SameDirectories d d') : d'.Keeps d :=
  ⟨h.here.symm, (h.isDirectory_iff _).1⟩

/-- Paths mean the same in trees with the same directories. -/
theorem locate_iff (h : SameDirectories d d') :
    d'.locate path = .ok place ↔ d.locate path = .ok place :=
  ⟨locate_mono h.symm_keeps, locate_mono h.keeps⟩

end SameDirectories

theorem sameDirectories_of_entry? (hhere : d'.here = d.here) (h : ∀ place,
    d'.entry? place = d.entry? place ∨ ¬d'.IsDirectory place ∧ ¬d.IsDirectory place) :
    SameDirectories d d' := by
  refine ⟨hhere, fun place => ?_⟩
  rcases h place with heq | ⟨hnot', hnot⟩
  · rw [IsDirectory, heq]
  · exact iff_of_false hnot' hnot

theorem sameDirectories_put (contents : Contents) (h : ¬d.IsDirectory place) :
    SameDirectories d (d.put place (.file contents)) := by
  refine sameDirectories_of_entry? rfl fun other => ?_
  have hentry := entry?_put d (ne_nil_of_not_isDirectory h) (.file contents) other
  split at hentry
  · next heq => exact .inr ⟨not_isDirectory_of_file hentry, heq ▸ h⟩
  · exact .inl hentry

theorem sameDirectories_erase (h : ¬d.IsDirectory place) :
    SameDirectories d (d.erase place) := by
  refine sameDirectories_of_entry? rfl fun other => ?_
  have hentry := entry?_erase d (ne_nil_of_not_isDirectory h) other
  split at hentry
  · next heq => exact .inr ⟨not_isDirectory_of_none hentry, heq ▸ h⟩
  · exact .inl hentry

def install (d : Disk) (source target : Address) (contents : Contents) : Disk :=
  ((d.put source (.file contents)).erase source).put target (.file contents)

@[simp]
theorem get?_install (d : Disk) (source target : Address) (contents : Contents) (place : Address) :
    (d.install source target contents).entries.get? place =
      if target = place then some (.file contents)
      else if source = place then none else d.entries.get? place := by
  simp only [install, put, erase, Dictionary.get?_insert, Dictionary.get?_erase]
  split
  · rfl
  · split <;> rfl

theorem entry?_install (hsource : ¬d.IsDirectory source) (htarget : ¬d.IsDirectory target)
    (contents : Contents) (place : Address) :
    entry? (d.install source target contents) place =
      if target = place then some (.file contents)
      else if source = place then none else d.entry? place := by
  have hput := entry?_put d (ne_nil_of_not_isDirectory hsource) (.file contents) place
  rw [install, entry?_put _ (ne_nil_of_not_isDirectory htarget),
    entry?_erase _ (ne_nil_of_not_isDirectory hsource), hput]
  split
  · rfl
  · split <;> rfl

theorem sameDirectories_install (hsource : ¬d.IsDirectory source)
    (htarget : ¬d.IsDirectory target) :
    SameDirectories d (d.install source target contents) := by
  have hput := sameDirectories_put contents hsource
  have herase := sameDirectories_erase fun h => hsource ((hput.isDirectory_iff source).1 h)
  have hboth := hput.trans herase
  have htarget' := (hboth.isDirectory_iff target).not.2 htarget
  exact hboth.trans (sameDirectories_put contents htarget')

/-- Writing a file under its temporary name and renaming it succeeds where no directory is in the
way. -/
theorem write_rename_iff : (∃ d₁, d.write temporary text = some d₁ ∧
      d₁.rename temporary path = some d') ↔
    ∃ source target, d.locate temporary = .ok source ∧ d.locate path = .ok target ∧
      ¬d.IsDirectory source ∧ ¬d.IsDirectory target ∧
      d' = d.install source target (.text text) := by
  have hwritten {source : Address} (hentry : ¬d.IsDirectory source) :
      entry? (d.put source (.file (.text text))) source = some (.file (.text text)) := by
    rw [entry?_put d (ne_nil_of_not_isDirectory hentry), if_pos rfl]
  constructor
  · rintro ⟨d₁, hwrite, hrename⟩
    obtain ⟨source, hsource, hentry, rfl⟩ := write_eq_some_iff.1 hwrite
    have hsame := sameDirectories_put (.text text) hentry
    obtain ⟨source', target, contents, hsource', htarget, hcontents, hdirectory, rfl⟩ :=
      rename_eq_some_iff.1 hrename
    cases (hsame.locate_iff.1 hsource').symm.trans hsource
    cases (hwritten hentry).symm.trans hcontents
    exact ⟨source, target, hsource, hsame.locate_iff.1 htarget, hentry,
      fun h => hdirectory ((hsame.isDirectory_iff target).2 h), rfl⟩
  · rintro ⟨source, target, hsource, htarget, hentry, hdirectory, rfl⟩
    have hsame := sameDirectories_put (.text text) hentry
    refine ⟨_, write_eq_some_iff.2 ⟨source, hsource, hentry, rfl⟩, rename_eq_some_iff.2 ?_⟩
    exact ⟨source, target, .text text, hsame.locate_iff.2 hsource, hsame.locate_iff.2 htarget,
      hwritten hentry, fun h => hdirectory ((hsame.isDirectory_iff target).1 h), rfl⟩

/-- At most a file has gone from the place that a path means. -/
structure Cleared (path : Text) (d d' : Disk) : Prop where
  here : d'.here = d.here
  entry : ∀ place, d'.entry? place = d.entry? place ∨
    d.locate path = .ok place ∧ ¬d.IsDirectory place ∧ d'.entry? place = none

theorem Cleared.of_eq (h : d' = d) : Cleared path d d' :=
  ⟨congrArg Disk.here h, fun _ => .inl (h ▸ rfl)⟩

theorem cleared_of_entry? (hplace : d.locate path = .ok place) (hentry : ¬d.IsDirectory place)
    (hhere : d'.here = d.here)
    (h : ∀ other, d'.entry? other = if place = other then none else d.entry? other) :
    Cleared path d d' := by
  refine ⟨hhere, fun other => ?_⟩
  have hother := h other
  split at hother
  · next heq => exact .inr ⟨heq ▸ hplace, heq ▸ hentry, hother⟩
  · exact .inl hother

theorem cleared_remove (d : Disk) (path : Text) : Cleared path d (d.remove path) := by
  rw [remove]
  split
  · exact .of_eq rfl
  · next place hplace =>
      split
      · next contents hfile =>
          have hentry := not_isDirectory_of_file hfile
          exact cleared_of_entry? hplace hentry rfl
            (entry?_erase d (ne_nil_of_not_isDirectory hentry))
      · exact .of_eq rfl

theorem cleared_remove_put (hplace : d.locate path = .ok place) (hentry : ¬d.IsDirectory place) :
    Cleared path d ((d.put place (.file contents)).remove path) := by
  have hne := ne_nil_of_not_isDirectory hentry
  have hsame := sameDirectories_put contents hentry
  have hwritten : entry? (d.put place (.file contents)) place = some (.file contents) := by
    rw [entry?_put d hne, if_pos rfl]
  have hremove : (d.put place (.file contents)).remove path =
      (d.put place (.file contents)).erase place := by
    simp only [remove, hsame.locate_iff.2 hplace, hwritten]
  rw [hremove]
  refine cleared_of_entry? hplace hentry rfl fun other => ?_
  rw [entry?_erase _ hne, entry?_put d hne]
  split <;> rfl

theorem Cleared.entry?_eq (h : Cleared path d d') (hplace : d.locate path ≠ .ok place) :
    d'.entry? place = d.entry? place := by
  rcases h.entry place with heq | ⟨hlocate, -⟩
  · exact heq
  · exact absurd hlocate hplace

theorem Cleared.gone_or_kept (h : Cleared path d d') (place : Address) :
    d'.entry? place = none ∨ d'.entry? place = d.entry? place := by
  rcases h.entry place with heq | ⟨-, -, hgone⟩
  · exact .inr heq
  · exact .inl hgone

theorem Cleared.sameDirectories (h : Cleared path d d') : SameDirectories d d' :=
  sameDirectories_of_entry? h.here fun place =>
    (h.entry place).imp id fun ⟨_, hentry, hgone⟩ => ⟨not_isDirectory_of_none hgone, hentry⟩

theorem eq_of_get?_eq (hhere : d.here = d'.here)
    (h : ∀ place, d.entries.get? place = d'.entries.get? place) : d = d' := by
  cases d
  cases d'
  exact congrArg₂ Disk.mk (Dictionary.eq_of_get?_eq h) hhere

end Highlight.Disk
