import Highlight.Path

/-!
The names on paths. Slashes and dots that lead nowhere do not count: a path has the same names with
and without them, and the path of a file in a directory has the names of the directory and then its
own.
-/

namespace Highlight

namespace Text

variable {c : Char} {text : Text}

theorem split_ne_nil (c : Char) (text : Text) : split c text ≠ [] := by
  cases text with
  | nil => exact List.cons_ne_nil _ _
  | cons d text =>
      rw [split]
      split
      · exact List.cons_ne_nil _ _
      · split <;> exact List.cons_ne_nil _ _

theorem split_cons {piece : Text} {pieces : List Text} (d : Char)
    (h : split c text = piece :: pieces) : split c (d :: text) =
      if d = c then [] :: piece :: pieces else (d :: piece) :: pieces := by
  simp only [split, h]

theorem split_append_separator (c : Char) (front back : Text) :
    split c (front ++ c :: back) = split c front ++ split c back := by
  induction front with
  | nil =>
      obtain ⟨piece, pieces, h⟩ := List.exists_cons_of_ne_nil (split_ne_nil c back)
      rw [List.nil_append, split_cons c h, if_pos rfl, h]
      rfl
  | cons d front ih =>
      obtain ⟨piece, pieces, h⟩ := List.exists_cons_of_ne_nil (split_ne_nil c front)
      rw [h] at ih
      rw [List.cons_append, split_cons d ih, split_cons d h]
      split <;> rfl

theorem split_of_not_mem (h : c ∉ text) : split c text = [text] := by
  induction text with
  | nil => rfl
  | cons d text ih =>
      rw [List.mem_cons, not_or] at h
      rw [split_cons d (ih h.2), if_neg (Ne.symm h.1)]

theorem not_mem_of_mem_split {piece : Text} (h : piece ∈ split c text) : c ∉ piece := by
  induction text generalizing piece with
  | nil =>
      cases List.mem_singleton.1 h
      exact List.not_mem_nil
  | cons d text ih =>
      obtain ⟨first, pieces, hsplit⟩ := List.exists_cons_of_ne_nil (split_ne_nil c text)
      rw [split_cons d hsplit] at h
      rw [hsplit] at ih
      split at h
      · rcases List.mem_cons.1 h with rfl | h
        · exact List.not_mem_nil
        · exact ih h
      · next hd =>
          rcases List.mem_cons.1 h with rfl | h
          · rw [List.mem_cons, not_or]
            exact ⟨Ne.symm hd, ih List.mem_cons_self⟩
          · exact ih (List.mem_cons_of_mem _ h)

theorem split_join {pieces : List Text} (hne : pieces ≠ []) (h : ∀ piece ∈ pieces, c ∉ piece) :
    split c (join [c] pieces) = pieces := by
  induction pieces with
  | nil => exact absurd rfl hne
  | cons first pieces ih =>
      have hfirst := split_of_not_mem (h first List.mem_cons_self)
      cases pieces with
      | nil => rwa [join, List.intercalate_singleton]
      | cons second pieces =>
          have hrest := ih (List.cons_ne_nil _ _) fun piece hpiece =>
            h piece (List.mem_cons_of_mem _ hpiece)
          rw [join] at hrest ⊢
          rw [List.intercalate_cons_cons, List.append_assoc, List.singleton_append,
            split_append_separator, hfirst, hrest]
          rfl

end Text

namespace Path

variable {path directory name : Text}

/-- A name that leads from a directory to what stands in it. -/
structure IsName (name : Text) : Prop where
  ne_nil : name ≠ []
  ne_here : name ≠ ['.']
  ne_above : name ≠ ['.', '.']
  plain : '/' ∉ name

theorem isName_of_length (hlength : 2 < name.length) (hplain : '/' ∉ name) : IsName name where
  ne_nil h := by simp [h] at hlength
  ne_here h := by simp [h] at hlength
  ne_above h := by simp [h] at hlength
  plain := hplain

theorem isName_temporary (h : '/' ∉ name) : IsName (temporary name) := by
  refine isName_of_length (by simp [temporary]) fun hmem => ?_
  rw [temporary, List.cons_append, List.mem_cons, List.mem_append] at hmem
  rcases hmem with heq | hmem | hmem
  · exact absurd heq (by decide)
  · exact h hmem
  · exact absurd hmem (by decide)

theorem names_nil : names [] = [] := rfl

theorem names_append_slash (path rest : Text) :
    names (path ++ '/' :: rest) = names path ++ names rest := by
  rw [names, Text.split_append_separator, List.filter_append]
  rfl

theorem not_mem_of_mem_names (h : name ∈ names path) : '/' ∉ name :=
  Text.not_mem_of_mem_split (List.mem_filter.1 h).1

theorem ne_nil_of_mem_names (h : name ∈ names path) : name ≠ [] := by
  rintro rfl
  cases (List.mem_filter.1 h).2

/-- The names on the path of a file in a directory end in its own. -/
theorem exists_split_join (directory : Text) (h : IsName name) : ∃ front,
    Text.split '/' (join directory name) = front ++ [name] ∧
      names directory = front.filter fun name => !name.isEmpty && name ≠ ['.'] := by
  have hname := Text.split_of_not_mem h.plain
  rw [join]
  split
  · next hopen =>
      rcases List.eq_nil_or_concat directory with rfl | ⟨front, c, rfl⟩
      · exact ⟨[], hname, rfl⟩
      · have hc : c = '/' := by simpa using hopen
        rw [hc, List.concat_eq_append, List.append_assoc, List.singleton_append,
          Text.split_append_separator, hname]
        refine ⟨Text.split '/' front, rfl, ?_⟩
        rw [names_append_slash, names_nil, List.append_nil]
        rfl
  · rw [Text.split_append_separator, hname]
    exact ⟨Text.split '/' directory, rfl, rfl⟩

theorem head?_join (h : IsName name) :
    (join directory name).head? = some '/' ↔ directory.head? = some '/' := by
  rw [join]
  cases directory with
  | nil =>
      have hname : name.head? ≠ some '/' := fun heq => h.plain (List.mem_of_mem_head? heq)
      simpa using hname
  | cons c directory => split <;> rfl

theorem join_ne_nil (h : IsName name) : join directory name ≠ [] := by
  rw [join]
  split
  · exact List.append_ne_nil_of_right_ne_nil _ h.ne_nil
  · simp

theorem names_dropStill (path : Text) :
    names (dropStill path).reverse = names path.reverse ∧
      (dropStill path).reverse.head? = path.reverse.head? := by
  fun_induction dropStill path with
  | case1 c path ih =>
      refine ⟨ih.1.trans ?_, ih.2.trans ?_⟩
      · rw [List.reverse_cons (a := '/'), names_append_slash, names_nil, List.append_nil]
      · simp
  | case2 path ih =>
      have hrest : ('.' :: '/' :: path).reverse = path.reverse ++ '/' :: ['.'] := by simp
      refine ⟨ih.1.trans ?_, ih.2.trans ?_⟩
      · rw [hrest, List.reverse_cons, names_append_slash, names_append_slash]
        rfl
      · simp
  | case3 path => exact ⟨rfl, rfl⟩

theorem names_trim (path : Text) : names (trim path) = names path := by
  have hreverse (c : Char) (path : Text) :
      names (c :: (path.dropWhile (· = '/')).reverse) = names (c :: path.reverse) := by
    induction path with
    | nil => rfl
    | cons d path ih =>
        by_cases hd : d = '/'
        · rw [hd, List.dropWhile_cons_of_pos (by simp), ih, List.reverse_cons, ← List.cons_append,
            names_append_slash, names_nil, List.append_nil]
        · rw [List.dropWhile_cons_of_neg (by simpa using hd)]
  cases path with
  | nil => rfl
  | cons c path => rw [trim, hreverse, List.reverse_reverse]

theorem head?_trim (path : Text) : (trim path).head? = path.head? := by
  cases path <;> rfl

theorem names_of_mem_above (h : directory ∈ above path) :
    ∃ n, names directory = (names path).take n := by
  obtain ⟨n, -, rfl⟩ := List.mem_map.1 h
  refine ⟨n + 1, ?_⟩
  generalize hpieces : (names path).take (n + 1) = pieces
  have hmoving : pieces.filter (fun name => !name.isEmpty && name ≠ ['.']) = pieces := by
    rw [← hpieces]
    refine List.filter_eq_self.2 fun name hname => ?_
    exact (List.mem_filter.1 (List.mem_of_mem_take hname)).2
  have hjoin : names (Text.join ['/'] pieces) = pieces := by
    by_cases hne : pieces = []
    · rw [hne]
      rfl
    · rw [names, Text.split_join hne, hmoving]
      intro piece hpiece
      rw [← hpieces] at hpiece
      exact not_mem_of_mem_names (List.mem_of_mem_take hpiece)
  split
  · exact (names_append_slash [] _).trans hjoin
  · exact hjoin

theorem head?_of_mem_above (h : directory ∈ above path) :
    directory.head? = some '/' ↔ path.head? = some '/' := by
  obtain ⟨n, -, rfl⟩ := List.mem_map.1 h
  split
  · next hroot => exact iff_of_true rfl hroot
  · next hroot =>
      refine iff_of_false (fun heq => ?_) hroot
      rw [List.nil_append, Text.join] at heq
      cases hpieces : (names path).take (n + 1) with
      | nil =>
          rw [hpieces] at heq
          cases heq
      | cons first pieces =>
          have hfirst : first ∈ names path := List.mem_of_mem_take (hpieces ▸ List.mem_cons_self)
          obtain ⟨c, first, rfl⟩ := List.exists_cons_of_ne_nil (ne_nil_of_mem_names hfirst)
          refine not_mem_of_mem_names hfirst ?_
          rw [hpieces] at heq
          cases pieces <;> cases heq <;> exact List.mem_cons_self

end Path

end Highlight
