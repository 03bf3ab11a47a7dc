import Highlight.Proofs.Disk.Places

/-!
Making directories. Whatever comes of it, nothing that was there is changed, and what is new are
directories on the way that the path leads. Where a directory was made, making it again does
nothing, also when files have come into the tree.
-/

namespace Highlight.Disk

variable {d d' d'' : Disk} {place : Address} {path : Text} {paths paths' : List Text}
  {entry : Entry}

/-- A tree grows by directories on the way that some paths lead. -/
structure Grows (paths : List Text) (d d' : Disk) : Prop where
  here : d'.here = d.here
  entry : ∀ place, d'.entry? place = d.entry? place ∨
    d.entry? place = none ∧ d'.IsDirectory place ∧
      ∃ path ∈ paths, ∃ n, d'.walk (d'.start path) ((Path.names path).take n) = .ok place

theorem Grows.refl : Grows paths d d := ⟨rfl, fun _ => .inl rfl⟩

theorem Grows.keeps_entry (h : Grows paths d d') (hplace : d.entry? place = some entry) :
    d'.entry? place = some entry := by
  rcases h.entry place with heq | ⟨hnone, -⟩
  · exact heq.trans hplace
  · cases hnone.symm.trans hplace

theorem Grows.keeps (h : Grows paths d d') : d.Keeps d' := ⟨h.here, h.keeps_entry⟩

theorem Grows.mono (h : Grows paths d d') (hsub : paths ⊆ paths') : Grows paths' d d' := by
  refine ⟨h.here, fun place => (h.entry place).imp id fun hall => ?_⟩
  obtain ⟨hnone, hnew, path, hpath, hway⟩ := hall
  exact ⟨hnone, hnew, path, hsub hpath, hway⟩

theorem Grows.trans (h : Grows paths d d') (h' : Grows paths d' d'') : Grows paths d d'' := by
  refine ⟨h'.here.trans h.here, fun place => ?_⟩
  rcases h.entry place with heq | ⟨hnone, hnew, path, hpath, n, hway⟩
  · rw [← heq]
    exact h'.entry place
  · refine .inr ⟨hnone, h'.keeps_entry hnew, path, hpath, n, ?_⟩
    rw [h'.keeps.start]
    exact walk_mono h'.keeps hway

theorem makeDirectory_eq_ok_iff : d.makeDirectory path = .ok d' ↔ isPath path = true ∧
    ∃ place, d.locate (Path.trim path) = .ok place ∧
      (d.IsDirectory place ∧ d' = d ∨
        d.entry? place = none ∧ d' = d.put place .directory) := by
  rw [makeDirectory]
  by_cases hpath : isPath path = true
  · cases hplace : d.locate (Path.trim path) with
    | error fault => simp [hpath, bind, Except.bind]
    | ok place =>
        cases hentry : d.entry? place with
        | none => simp [hpath, hentry, bind, Except.bind, eq_comm]
        | some entry =>
            cases entry with
            | directory => simp [hpath, hentry, bind, Except.bind, IsDirectory, eq_comm]
            | file contents => simp [hpath, hentry, bind, Except.bind, IsDirectory]
  · simp [hpath, bind, Except.bind, throw, throwThe, MonadExceptOf.throw]

theorem ne_nil_of_entry?_eq_none (h : d.entry? place = none) : place ≠ [] := by
  rintro rfl
  cases h

theorem entry?_put_directory (h : d.entry? place = none) {other : Address}
    (hother : d.entry? other = some entry) :
    entry? (d.put place .directory) other = some entry := by
  rw [entry?_put d (ne_nil_of_entry?_eq_none h)]
  split
  · next heq =>
      rw [heq] at h
      cases h.symm.trans hother
  · exact hother

theorem isDirectory_put_directory (h : d.entry? place = none) :
    (d.put place .directory).IsDirectory place := by
  rw [IsDirectory, entry?_put d (ne_nil_of_entry?_eq_none h), if_pos rfl]

theorem start_trim (d : Disk) (path : Text) : d.start (Path.trim path) = d.start path :=
  d.start_congr (by rw [Path.head?_trim])

theorem keeps_put_directory (h : d.entry? place = none) : d.Keeps (d.put place .directory) :=
  ⟨rfl, entry?_put_directory h⟩

theorem grows_makeDirectory (h : d.makeDirectory path = .ok d') : Grows [path] d d' := by
  obtain ⟨-, place, hlocate, ⟨hentry, rfl⟩ | ⟨hentry, rfl⟩⟩ := makeDirectory_eq_ok_iff.1 h
  · exact .refl
  · refine ⟨rfl, fun other => ?_⟩
    rw [entry?_put d (ne_nil_of_entry?_eq_none hentry)]
    split
    · next heq =>
        cases heq
        refine .inr ⟨hentry, isDirectory_put_directory hentry, path, List.mem_singleton_self _,
          (Path.names path).length, ?_⟩
        have hkeeps := keeps_put_directory hentry
        obtain ⟨-, -, hwalk⟩ := locate_eq_ok_iff.1 hlocate
        rw [start_trim] at hwalk
        rw [List.take_length, ← Path.names_trim, hkeeps.start]
        exact walk_mono hkeeps (walk_filter hwalk)
    · exact .inl rfl

theorem makeDirectory_again (h : d.makeDirectory path = .ok d') (hd : d'.Keeps d'') :
    d''.makeDirectory path = .ok d'' := by
  obtain ⟨hpath, place, hlocate, hentry⟩ := makeDirectory_eq_ok_iff.1 h
  have hthere : d'.IsDirectory place := by
    rcases hentry with ⟨hentry, rfl⟩ | ⟨hentry, rfl⟩
    · exact hentry
    · exact isDirectory_put_directory hentry
  have hlocate' := locate_mono hd (locate_mono (grows_makeDirectory h).keeps hlocate)
  exact makeDirectory_eq_ok_iff.2 ⟨hpath, place, hlocate', .inl ⟨hd.directory hthere, rfl⟩⟩

/-- A path begins where another one does, and leads a part of its way. -/
structure Starts (directory path : Text) : Prop where
  head? : directory.head? = some '/' ↔ path.head? = some '/'
  names : ∃ n, Path.names directory = (Path.names path).take n

theorem Starts.refl (path : Text) : Starts path path :=
  ⟨Iff.rfl, _, List.take_length.symm⟩

theorem Grows.of_starts {directory : Text} (h : Grows [directory] d d')
    (hdirectory : Starts directory path) : Grows [path] d d' := by
  obtain ⟨m, hnames⟩ := hdirectory.names
  refine ⟨h.here, fun place => (h.entry place).imp id fun hall => ?_⟩
  obtain ⟨hnone, hnew, other, hother, n, hway⟩ := hall
  cases List.mem_singleton.1 hother
  refine ⟨hnone, hnew, path, List.mem_singleton_self _, min n m, ?_⟩
  rwa [hnames, List.take_take, d'.start_congr hdirectory.head?] at hway

theorem grows_makeChain {list : List Text} (hlist : ∀ directory ∈ list, Starts directory path) :
    Grows [path] d (d.makeChain list).1 := by
  induction list with
  | nil => exact .refl
  | cons directory above ih =>
      have hdirectory := hlist directory List.mem_cons_self
      have habove := ih fun other hother => hlist other (List.mem_cons_of_mem _ hother)
      rw [makeChain]
      split
      · next made hmade => exact (grows_makeDirectory hmade).of_starts hdirectory
      · exact .refl
      · split
        · next heq => rwa [heq] at habove
        · next heq =>
            rw [heq] at habove
            split
            · next made hmade =>
                exact habove.trans ((grows_makeDirectory hmade).of_starts hdirectory)
            · exact habove

/-- Making a directory changes nothing that was there, whether it succeeds or not. -/
theorem grows_makeDirectories (d : Disk) (path : Text) :
    Grows [path] d (d.makeDirectories path).1 := by
  rw [makeDirectories]
  split
  · exact .refl
  · refine grows_makeChain fun directory hdirectory => ?_
    rcases List.mem_cons.1 hdirectory with rfl | hdirectory
    · exact .refl _
    · exact ⟨Path.head?_of_mem_above hdirectory, Path.names_of_mem_above hdirectory⟩

/-- A chain that succeeds ends with its first directory. -/
theorem exists_makeDirectory_of_makeChain {above : List Text}
    (h : d.makeChain (path :: above) = (d', true)) :
    ∃ d₁ : Disk, d₁.makeDirectory path = .ok d' := by
  rw [makeChain] at h
  split at h
  · next made hmade =>
      cases h
      exact ⟨d, hmade⟩
  · cases h
  · split at h
    · cases h
    · split at h
      · next made hmade =>
          cases h
          exact ⟨_, hmade⟩
      · cases h

theorem makeDirectories_again (h : d.makeDirectories path = (d', true)) (hd : d'.Keeps d'') :
    d''.makeDirectories path = (d'', true) := by
  rw [makeDirectories] at h ⊢
  split at h
  · next hempty => rw [if_pos hempty]
  · next hempty =>
      obtain ⟨d₁, hmade⟩ := exists_makeDirectory_of_makeChain h
      rw [if_neg hempty, makeChain, makeDirectory_again hmade hd]

end Highlight.Disk
