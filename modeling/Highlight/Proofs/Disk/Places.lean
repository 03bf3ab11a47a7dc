import Highlight.Disk
import Highlight.Proofs.Path

/-!
The places that paths mean. A path is followed name by name, each name in a directory, from the root
or from the directory at hand, so that what a path means hangs on the directories of a tree alone:
files can come and go. A file in a directory and its temporary stand next to each other, however the
path of the directory is written.
-/

namespace Highlight.Disk

variable {d d' : Disk} {place next target parent : Address} {path directory name : Text}
  {names front back : List Text} {entry : Entry}

abbrev IsDirectory (d : Disk) (place : Address) : Prop := d.entry? place = some .directory

theorem ne_nil_of_not_isDirectory (h : ¬d.IsDirectory place) : place ≠ [] := by
  rintro rfl
  exact h rfl

theorem not_isDirectory_of_none (h : d.entry? place = none) : ¬d.IsDirectory place := by
  simp [h]

theorem not_isDirectory_of_file {contents : Contents}
    (h : d.entry? place = some (.file contents)) : ¬d.IsDirectory place := by
  simp [h]

theorem get?_of_not_isDirectory (h : ¬d.IsDirectory place) :
    d.entries.get? place = d.entry? place := by
  cases place with
  | nil => exact absurd rfl h
  | cons name place => rfl

theorem entry?_congr (h : d.entries.get? place = d'.entries.get? place) :
    d.entry? place = d'.entry? place := by
  cases place with
  | nil => rfl
  | cons name place => exact h

@[simp]
theorem entry?_put (d : Disk) (hplace : place ≠ []) (entry : Entry) (other : Address) :
    entry? (d.put place entry) other = if place = other then some entry else d.entry? other := by
  cases other with
  | nil => rw [if_neg hplace]; rfl
  | cons name other => exact Dictionary.get?_insert _ _ _ _

@[simp]
theorem entry?_erase (d : Disk) (hplace : place ≠ []) (other : Address) :
    entry? (d.erase place) other = if place = other then none else d.entry? other := by
  cases other with
  | nil => rw [if_neg hplace]; rfl
  | cons name other => exact Dictionary.get?_erase _ _ _

/-- Where a name leads from a place, if that place is a directory. -/
def step? (place : Address) (name : Text) : Option Address :=
  if name.isEmpty || name = ['.'] then some place
  else if name = ['.', '.'] then some place.tail
  else if nameLimit < size name then none
  else some (name :: place)

theorem step?_of_isName (h : Path.IsName name) (place : Address) :
    step? place name = if nameLimit < size name then none else some (name :: place) := by
  simp [step?, h.ne_nil, h.ne_here, h.ne_above]

theorem step?_of_still (h : ¬(!name.isEmpty && name ≠ ['.']) = true) (place : Address) :
    step? place name = some place := by
  refine if_pos ?_
  cases name with
  | nil => rfl
  | cons c name => simpa using h

theorem walk_nil : d.walk place [] = .ok place := rfl

/-- All that following one name can do. -/
theorem walk_cons_eq_ok_iff : d.walk place (name :: names) = .ok target ↔
    d.IsDirectory place ∧
      ∃ next, step? place name = some next ∧ d.walk next names = .ok target := by
  rw [walk.eq_def, IsDirectory]
  dsimp only
  cases d.entry? place with
  | none => simp
  | some entry =>
      cases entry with
      | file contents => simp
      | directory =>
          simp only [step?, true_and]
          split
          · simp
          · split
            · simp
            · split <;> simp

theorem walk_append_eq_ok_iff : d.walk place (front ++ back) = .ok target ↔
    ∃ next, d.walk place front = .ok next ∧ d.walk next back = .ok target := by
  induction front generalizing place with
  | nil => simp [walk_nil]
  | cons name front ih =>
      simp only [List.cons_append, walk_cons_eq_ok_iff, ih]
      constructor
      · rintro ⟨hplace, next, hnext, last, hlast, htarget⟩
        exact ⟨last, ⟨hplace, next, hnext, hlast⟩, htarget⟩
      · rintro ⟨last, ⟨hplace, next, hnext, hlast⟩, htarget⟩
        exact ⟨hplace, next, hnext, last, hlast, htarget⟩

theorem directory_of_walk (h : d.walk place names = .ok target)
    (htarget : d.IsDirectory target) : d.IsDirectory place := by
  cases names with
  | nil =>
      cases walk_nil.symm.trans h
      exact htarget
  | cons name names => exact (walk_cons_eq_ok_iff.1 h).1

/-- A tree keeps the directories of another, and the one at hand. -/
structure Keeps (d d' : Disk) : Prop where
  here : d'.here = d.here
  directory {place : Address} (h : d.IsDirectory place) : d'.IsDirectory place

theorem Keeps.trans {d'' : Disk} (h : d.Keeps d') (h' : d'.Keeps d'') : d.Keeps d'' :=
  ⟨h'.here.trans h.here, fun hplace => h'.directory (h.directory hplace)⟩

theorem walk_mono (hd : d.Keeps d') (h : d.walk place names = .ok target) :
    d'.walk place names = .ok target := by
  induction names generalizing place with
  | nil => rwa [walk_nil] at h ⊢
  | cons name names ih =>
      obtain ⟨hplace, next, hnext, hrest⟩ := walk_cons_eq_ok_iff.1 h
      exact walk_cons_eq_ok_iff.2 ⟨hd.directory hplace, next, hnext, ih hrest⟩

theorem walk_filter (h : d.walk place names = .ok target) :
    d.walk place (names.filter fun name => !name.isEmpty && name ≠ ['.']) = .ok target := by
  induction names generalizing place with
  | nil => exact h
  | cons name names ih =>
      obtain ⟨hplace, next, hnext, hrest⟩ := walk_cons_eq_ok_iff.1 h
      rw [List.filter_cons]
      split
      · exact walk_cons_eq_ok_iff.2 ⟨hplace, next, hnext, ih hrest⟩
      · next hstill =>
          cases (step?_of_still hstill place).symm.trans hnext
          exact ih hrest

theorem walk_of_filter
    (h : d.walk place (names.filter fun name => !name.isEmpty && name ≠ ['.']) = .ok target)
    (htarget : d.IsDirectory target) : d.walk place names = .ok target := by
  induction names generalizing place with
  | nil => exact h
  | cons name names ih =>
      rw [List.filter_cons] at h
      split at h
      · obtain ⟨hplace, next, hnext, hrest⟩ := walk_cons_eq_ok_iff.1 h
        exact walk_cons_eq_ok_iff.2 ⟨hplace, next, hnext, ih hrest⟩
      · next hstill =>
          exact walk_cons_eq_ok_iff.2
            ⟨directory_of_walk h htarget, place, step?_of_still hstill place, ih h⟩

theorem Keeps.start (hd : d.Keeps d') (path : Text) : d'.start path = d.start path := by
  rw [Disk.start, hd.here, Disk.start]

theorem start_congr (d : Disk) {path path' : Text}
    (h : path.head? = some '/' ↔ path'.head? = some '/') : d.start path = d.start path' := by
  simp only [start, h]

theorem locate_eq_ok_iff : d.locate path = .ok place ↔ isPath path = true ∧ path ≠ [] ∧
    d.walk (d.start path) (Text.split '/' path) = .ok place := by
  rw [locate]
  split
  · next h => simp_all
  · split <;> simp_all

theorem locate_mono (hd : d.Keeps d') (h : d.locate path = .ok place) :
    d'.locate path = .ok place := by
  obtain ⟨hpath, hne, hwalk⟩ := locate_eq_ok_iff.1 h
  exact locate_eq_ok_iff.2 ⟨hpath, hne, (hd.start path).symm ▸ walk_mono hd hwalk⟩

/-- A path leads to a directory. -/
structure Reaches (d : Disk) (path : Text) (place : Address) : Prop where
  walk : d.walk (d.start path) (Path.names path) = .ok place
  directory : d.IsDirectory place

theorem Reaches.unique (h : d.Reaches path place) (h' : d.Reaches path target) : place = target :=
  Except.ok.inj (h.walk.symm.trans h'.walk)

/-- The path of a file in a directory means the file's name at the place of the directory. -/
theorem locate_join_eq_ok_iff (h : Path.IsName name) :
    d.locate (Path.join directory name) = .ok place ↔
      isPath (Path.join directory name) = true ∧ size name ≤ nameLimit ∧
        ∃ parent, d.Reaches directory parent ∧ place = name :: parent := by
  obtain ⟨front, hsplit, hnames⟩ := Path.exists_split_join directory h
  have hlast (parent : Address) : d.walk parent [name] = .ok place ↔
      size name ≤ nameLimit ∧ d.IsDirectory parent ∧ place = name :: parent := by
    simp only [walk_cons_eq_ok_iff, walk_nil, step?_of_isName h]
    constructor
    · rintro ⟨hparent, next, hnext, hplace⟩
      split at hnext
      · cases hnext
      · next hsize =>
          cases hnext
          cases hplace
          exact ⟨Nat.not_lt.1 hsize, hparent, rfl⟩
    · rintro ⟨hsize, hparent, rfl⟩
      exact ⟨hparent, _, if_neg (Nat.not_lt.2 hsize), rfl⟩
  simp only [locate_eq_ok_iff, hsplit, walk_append_eq_ok_iff, hlast,
    d.start_congr (Path.head?_join h), Path.join_ne_nil h, ne_eq, not_false_eq_true, true_and]
  constructor
  · rintro ⟨hpath, parent, hwalk, hsize, hparent, rfl⟩
    exact ⟨hpath, hsize, parent, ⟨hnames ▸ walk_filter hwalk, hparent⟩, rfl⟩
  · rintro ⟨hpath, hsize, parent, ⟨hwalk, hparent⟩, rfl⟩
    rw [hnames] at hwalk
    exact ⟨hpath, parent, walk_of_filter hwalk hparent, hsize, hparent, rfl⟩

theorem reaches_dropStill_iff : d.Reaches (Path.dropStill path.reverse).reverse place ↔
    d.Reaches path place := by
  obtain ⟨hnames, hhead⟩ := Path.names_dropStill path.reverse
  rw [List.reverse_reverse] at hnames hhead
  have hstart : d.start (Path.dropStill path.reverse).reverse = d.start path :=
    d.start_congr (by rw [hhead])
  constructor
  · intro h
    exact ⟨hnames ▸ hstart ▸ h.walk, h.directory⟩
  · intro h
    exact ⟨hnames.symm ▸ hstart.symm ▸ h.walk, h.directory⟩

theorem locate_joinTemporary_eq_ok_iff (h : '/' ∉ name) :
    d.locate (Path.joinTemporary directory name) = .ok place ↔
      isPath (Path.joinTemporary directory name) = true ∧
        size (Path.temporary name) ≤ nameLimit ∧
          ∃ parent, d.Reaches directory parent ∧ place = Path.temporary name :: parent := by
  rw [Path.joinTemporary, locate_join_eq_ok_iff (Path.isName_temporary h)]
  simp only [reaches_dropStill_iff]

end Highlight.Disk
