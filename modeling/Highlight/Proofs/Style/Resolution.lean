import Highlight.Proofs.Dictionary
import Highlight.Proofs.History
import Highlight.Proofs.Style

/-!
What a text comes to when its style tags are resolved. The tags are those that a search from the
left finds, said without the search: `Cut` takes a text apart at them, in one way only. What stands
for a tag is the classification of the first insertion that mapped it, whatever else was tried to
insert.
-/

namespace Highlight.StyleMap

open TokenShape (style)

variable {m m' : StyleMap} {pair : Text × Text} {pairs other : List (Text × Text)}
  {tag classification ahead text rest rest' out : Text} {c : Char} {n : Nat}
  {parts parts' : List (Text × Text)} {e : Error}

def insertPair (m : StyleMap) (pair : Text × Text) : Except Error StyleMap := m.insert pair.1 pair.2

def ofHistory (pairs : List (Text × Text)) : StyleMap := afterCalls insertPair empty pairs

/-- The mappings that are inserted, in order. -/
def inserted (pairs : List (Text × Text)) : List (Text × Text) := successes insertPair empty pairs

/-- The first mapping that is inserted for the tag. -/
def Maps (pairs : List (Text × Text)) (tag classification : Text) : Prop :=
  FirstOf (·.1 = tag) (inserted pairs) (tag, classification)

theorem classification_of_insertPair (h : m.insertPair pair = .ok m') :
    m'.classification tag = if pair.1 = tag then some pair.2 else m.classification tag := by
  obtain ⟨-, -, -, rfl⟩ := insert_eq_ok_iff.1 h
  exact Dictionary.get?_insert _ _ _ _

theorem classification_eq_none_of_insertPair (h : m.insertPair pair = .ok m') :
    m.classification pair.1 = none := by
  obtain ⟨-, -, hnew, -⟩ := insert_eq_ok_iff.1 h
  exact Option.not_isSome_iff_eq_none.1 (Bool.not_eq_true _ ▸ hnew)

theorem classification_kept (hm : m.classification tag = some classification)
    (pairs : List (Text × Text)) :
    (afterCalls insertPair m pairs).classification tag = some classification := by
  refine afterCalls_induction (p := fun m : StyleMap => m.classification tag = some classification)
    (fun m pair m' hm h => ?_) hm pairs
  have hnew := classification_eq_none_of_insertPair h
  rw [classification_of_insertPair h, if_neg, hm]
  rintro rfl
  cases hnew.symm.trans hm

theorem not_mem_successes (hm : m.classification tag = some classification) :
    ∀ pair ∈ successes insertPair m pairs, pair.1 ≠ tag := by
  induction pairs generalizing m with
  | nil => nofun
  | cons first pairs ih =>
      cases h : m.insertPair first with
      | error e =>
          rw [successes_of_error h]
          exact ih hm
      | ok m' =>
          have hnew := classification_eq_none_of_insertPair h
          have hne : first.1 ≠ tag := by
            rintro rfl
            cases hnew.symm.trans hm
          rw [successes_of_ok h, List.forall_mem_cons]
          refine ⟨hne, ih ?_⟩
          rw [classification_of_insertPair h, if_neg hne, hm]

theorem classification_afterCalls (hm : m.classification tag = none) :
    (afterCalls insertPair m pairs).classification tag = some classification ↔
      (tag, classification) ∈ successes insertPair m pairs := by
  induction pairs generalizing m with
  | nil => exact iff_of_false (fun h => Option.some_ne_none _ (h.symm.trans hm)) List.not_mem_nil
  | cons first pairs ih =>
      rw [afterCalls_cons]
      cases h : m.insertPair first with
      | error e =>
          rw [afterCall_of_error h, successes_of_error h]
          exact ih hm
      | ok m' =>
          have hnext : m'.classification tag =
              if first.1 = tag then some first.2 else m.classification tag :=
            classification_of_insertPair h
          rw [afterCall_of_ok h, successes_of_ok h, List.mem_cons]
          by_cases hfirst : first.1 = tag
          · rw [if_pos hfirst] at hnext
            have hrest : (tag, classification) ∉ successes insertPair m' pairs :=
              fun hmem => not_mem_successes hnext _ hmem rfl
            rw [classification_kept hnext, Option.some.injEq, or_iff_left hrest, Prod.ext_iff]
            exact ⟨fun heq => ⟨hfirst.symm, heq.symm⟩, fun heq => heq.2.symm⟩
          · rw [if_neg hfirst, hm] at hnext
            rw [ih hnext, or_iff_right]
            rintro rfl
            exact hfirst rfl

theorem mem_inserted_iff : (tag, classification) ∈ inserted pairs ↔
    (ofHistory pairs).classification tag = some classification :=
  (classification_afterCalls rfl).symm

theorem maps_iff : Maps pairs tag classification ↔
    (ofHistory pairs).classification tag = some classification := by
  constructor
  · rintro ⟨before, after, h, -⟩
    exact mem_inserted_iff.1 (h ▸ List.mem_append_right before List.mem_cons_self)
  · intro h
    obtain ⟨⟨first, found⟩, hfirst⟩ := exists_firstOf (p := fun pair => pair.1 = tag)
      ⟨_, mem_inserted_iff.2 h, rfl⟩
    obtain ⟨before, after, heq, rfl, -⟩ := id hfirst
    have hfound := mem_inserted_iff.1 (heq ▸ List.mem_append_right before List.mem_cons_self)
    cases hfound.symm.trans h
    exact hfirst

theorem classification_eq_none_iff : (ofHistory pairs).classification tag = none ↔
    ∀ pair ∈ inserted pairs, pair.1 ≠ tag := by
  constructor
  · rintro h ⟨first, found⟩ hmem rfl
    cases h.symm.trans (mem_inserted_iff.1 hmem)
  · intro h
    refine Option.eq_none_iff_forall_ne_some.2 fun classification hmapped => ?_
    exact h _ (mem_inserted_iff.2 hmapped) rfl

theorem ofHistory_congr (h : ∀ pair, pair ∈ inserted other ↔ pair ∈ inserted pairs) :
    ofHistory other = ofHistory pairs := by
  have hentries : (ofHistory other).entries = (ofHistory pairs).entries := by
    refine Dictionary.eq_of_get?_eq fun tag => Option.ext fun classification => ?_
    exact mem_inserted_iff.symm.trans ((h _).trans mem_inserted_iff)
  exact congrArg StyleMap.mk hentries

/-- No tag of the text begins among its first `n` characters. -/
def TagsBehind (n : Nat) (text : Text) : Prop :=
  ∀ front tag after, Words.upper.spells tag = true → text = front ++ (style.spell tag ++ after) →
    n ≤ front.length

theorem tagsBehind_cons_iff : TagsBehind (n + 1) (c :: text) ↔
    style.read? (c :: text) = none ∧ TagsBehind n text := by
  constructor
  · intro h
    constructor
    · refine Option.eq_none_iff_forall_ne_some.2 fun ⟨tag, rest⟩ hread => ?_
      obtain ⟨htag, htext⟩ := TokenShape.style_read?_eq_some_iff.1 hread
      cases h [] tag rest htag htext
    · rintro front tag after htag rfl
      exact Nat.le_of_succ_le_succ (h (c :: front) tag after htag rfl)
  · rintro ⟨hread, h⟩ front tag after htag htext
    cases front with
    | nil => cases hread.symm.trans (TokenShape.style_read?_eq_some_iff.2 ⟨htag, htext⟩)
    | cons d front => exact Nat.succ_le_succ (h front tag after htag (List.cons.inj htext).2)

theorem tagsBehind_length_iff : TagsBehind text.length text ↔
    ∀ tag, Words.upper.spells tag = true → ¬style.spell tag <:+: text := by
  constructor
  · rintro h tag htag ⟨front, after, rfl⟩
    have hle := h front tag after htag (List.append_assoc _ _ _)
    have hpos : 0 < (style.spell tag).length := Nat.succ_pos _
    simp only [List.length_append] at hle
    omega
  · rintro h front tag after htag rfl
    exact absurd ⟨front, after, List.append_assoc _ _ _⟩ (h tag htag)

/-- A text as its leftmost style tags, each with the text ahead of it, and the rest that holds
none. -/
inductive Cut : Text → List (Text × Text) → Text → Prop
  | rest {text : Text} (h : ∀ tag, Words.upper.spells tag = true → ¬style.spell tag <:+: text) :
      Cut text [] text
  | tag {ahead tag text rest : Text} {parts : List (Text × Text)}
      (htag : Words.upper.spells tag = true)
      (hahead : TagsBehind ahead.length (ahead ++ (style.spell tag ++ text)))
      (h : Cut text parts rest) :
      Cut (ahead ++ (style.spell tag ++ text)) ((ahead, tag) :: parts) rest

namespace Cut

theorem of_read? (hread : style.read? text = some (tag, rest)) (h : Cut rest parts rest') :
    Cut text (([], tag) :: parts) rest' := by
  obtain ⟨htag, rfl⟩ := TokenShape.style_read?_eq_some_iff.1 hread
  have hahead : TagsBehind 0 ([] ++ (style.spell tag ++ rest)) := fun _ _ _ _ _ => Nat.zero_le _
  exact .tag htag hahead h

theorem cons (hread : style.read? (c :: text) = none) (h : Cut text parts rest) :
    ∃ parts rest, Cut (c :: text) parts rest := by
  cases h with
  | rest h =>
      refine ⟨[], c :: text, .rest (tagsBehind_length_iff.1 ?_)⟩
      exact tagsBehind_cons_iff.2 ⟨hread, tagsBehind_length_iff.2 h⟩
  | @tag ahead tag text rest parts htag hahead h =>
      have hahead' : TagsBehind (c :: ahead).length (c :: ahead ++ (style.spell tag ++ text)) :=
        tagsBehind_cons_iff.2 ⟨hread, hahead⟩
      exact ⟨_, _, .tag htag hahead' h⟩

theorem exists_cut (text : Text) : ∃ parts rest, Cut text parts rest := by
  fun_induction TokenShape.scan style text with
  | case1 =>
      refine ⟨[], [], .rest fun tag _ hinfix => ?_⟩
      cases List.infix_nil.1 hinfix
  | case2 c text tag after hread ih =>
      obtain ⟨parts, rest, h⟩ := ih
      exact ⟨_, _, of_read? hread h⟩
  | case3 c text hread ih =>
      obtain ⟨parts, rest, h⟩ := ih
      exact cons hread h

/-- A text can be cut in one way only: its first tag begins at one place, and ends at one. -/
theorem unique (h : Cut text parts rest) (h' : Cut text parts' rest') :
    parts' = parts ∧ rest' = rest := by
  induction h generalizing parts' rest' with
  | rest h =>
      cases h' with
      | rest _ => exact ⟨rfl, rfl⟩
      | tag htag _ _ => exact absurd ⟨_, _, List.append_assoc _ _ _⟩ (h _ htag)
  | @tag ahead tag text rest parts htag hahead hcut ih =>
      generalize htext : ahead ++ (style.spell tag ++ text) = whole at h' hahead
      cases h' with
      | rest h => exact absurd ⟨_, _, (List.append_assoc _ _ _).trans htext⟩ (h tag htag)
      | @tag ahead' tag' text' _ parts' htag' hahead' h' =>
          have hlength : ahead.length = ahead'.length :=
            Nat.le_antisymm (hahead _ _ _ htag' rfl) (hahead' _ _ _ htag htext.symm)
          obtain ⟨rfl, hspelled⟩ := List.append_inj htext hlength
          have hread := TokenShape.style_read?_eq_some_iff.2 ⟨htag', hspelled⟩
          cases (TokenShape.style_read?_eq_some_iff.2 ⟨htag, rfl⟩).symm.trans hread
          obtain ⟨rfl, rfl⟩ := ih h'
          exact ⟨rfl, rfl⟩

end Cut

theorem resolve_append_of_tagsBehind (h : TagsBehind ahead.length (ahead ++ text)) :
    m.resolve (ahead ++ text) = (m.resolve text).map (ahead ++ ·) := by
  induction ahead with
  | nil =>
      rw [List.nil_append]
      cases m.resolve text <;> rfl
  | cons c ahead ih =>
      have hbehind : TagsBehind (ahead.length + 1) (c :: (ahead ++ text)) := h
      obtain ⟨hread, hrest⟩ := tagsBehind_cons_iff.1 hbehind
      rw [List.cons_append, resolve_cons_of_none hread, ih hrest]
      cases m.resolve text <;> rfl

theorem resolve_of_tagless
    (h : ∀ tag, Words.upper.spells tag = true → ¬style.spell tag <:+: text) :
    m.resolve text = .ok text := by
  have hresolve : m.resolve (text ++ []) = (m.resolve []).map (text ++ ·) :=
    resolve_append_of_tagsBehind ((List.append_nil text).symm ▸ tagsBehind_length_iff.2 h)
  rwa [List.append_nil, resolve_nil, Except.map, List.append_nil] at hresolve

namespace Cut

theorem resolve_mapped (htag : Words.upper.spells tag = true)
    (hahead : TagsBehind ahead.length (ahead ++ (style.spell tag ++ text)))
    (hmapped : m.classification tag = some classification) :
    m.resolve (ahead ++ (style.spell tag ++ text)) =
      (m.resolve text).map (ahead ++ classification ++ ·) := by
  rw [resolve_append_of_tagsBehind hahead,
    resolve_of_mapped (TokenShape.style_read?_eq_some_iff.2 ⟨htag, rfl⟩) hmapped]
  simp only [List.append_assoc]
  cases m.resolve text <;> rfl

theorem resolve_unmapped (htag : Words.upper.spells tag = true)
    (hahead : TagsBehind ahead.length (ahead ++ (style.spell tag ++ text)))
    (hunmapped : m.classification tag = none) :
    m.resolve (ahead ++ (style.spell tag ++ text)) =
      .error (.unresolvedPlaceholder (style.spell tag)) := by
  rw [resolve_append_of_tagsBehind hahead,
    resolve_of_unmapped (TokenShape.style_read?_eq_some_iff.2 ⟨htag, rfl⟩) hunmapped]
  rfl

theorem resolve_eq_ok_iff (h : Cut text parts rest) : m.resolve text = .ok out ↔
    ∃ resolved : List (Text × Text),
      List.Forall₂ (fun part piece => piece.1 = part.1 ∧
        m.classification part.2 = some piece.2) parts resolved ∧
      out = resolved.flatMap (fun piece => piece.1 ++ piece.2) ++ rest := by
  induction h generalizing out with
  | rest h =>
      rw [resolve_of_tagless h, Except.ok.injEq]
      constructor
      · rintro rfl
        exact ⟨[], .nil, rfl⟩
      · rintro ⟨_, ⟨⟩, rfl⟩
        rfl
  | @tag ahead tag text rest parts htag hahead h ih =>
      cases htagged : m.classification tag with
      | none =>
          rw [resolve_unmapped htag hahead htagged]
          refine iff_of_false nofun ?_
          rintro ⟨_, hall, -⟩
          cases hall with
          | cons hpiece _ => cases htagged.symm.trans hpiece.2
      | some classification =>
          rw [resolve_mapped htag hahead htagged, map_eq_ok_iff]
          constructor
          · rintro ⟨after, hafter, rfl⟩
            obtain ⟨resolved, hall, rfl⟩ := ih.1 hafter
            refine ⟨(ahead, classification) :: resolved, .cons ⟨rfl, htagged⟩ hall, ?_⟩
            simp only [List.flatMap_cons, List.append_assoc]
          · rintro ⟨_, hall, rfl⟩
            cases hall with
            | @cons _ piece _ resolved hpiece hall =>
                obtain ⟨hpiece, hclassified⟩ := hpiece
                cases htagged.symm.trans hclassified
                refine ⟨_, ih.2 ⟨resolved, hall, rfl⟩, ?_⟩
                simp only [List.flatMap_cons, List.append_assoc, hpiece]

/-- Resolution fails with the first tag of a cut that is not mapped. -/
theorem resolve_eq_error_iff (h : Cut text parts rest) : m.resolve text = .error e ↔
    ∃ part, FirstOf (fun part => m.classification part.2 = none) parts part ∧
      e = .unresolvedPlaceholder (style.spell part.2) := by
  induction h with
  | rest h =>
      rw [resolve_of_tagless h]
      refine iff_of_false nofun ?_
      rintro ⟨part, hfirst, -⟩
      exact firstOf_nil hfirst
  | @tag ahead tag text rest parts htag hahead h ih =>
      cases htagged : m.classification tag with
      | none =>
          rw [resolve_unmapped htag hahead htagged, Except.error.injEq]
          simp only [firstOf_cons, htagged, true_and, not_true_eq_false, false_and, or_false,
            exists_eq_left]
          exact eq_comm
      | some classification =>
          rw [resolve_mapped htag hahead htagged]
          simp only [firstOf_cons, htagged, reduceCtorEq, false_and, not_false_eq_true, true_and,
            false_or, ← ih]
          cases m.resolve text with
          | error other => rfl
          | ok after => exact iff_of_false nofun nofun

end Cut

/-- Resolution is exact. A text is cut at its leftmost style tags in one way; each of them gives way
to the classification that was first inserted for it, and what is put in is not read again. Without
such a classification the leftmost tag that lacks one is the error. A tag by itself comes to its own
classification, whatever other tags it begins or ends like; a text without tags is left as it is;
and it does not matter in which order mappings were inserted. -/
theorem resolve_exact (pairs : List (Text × Text)) (text : Text) :
    ∃ parts rest, Cut text parts rest ∧
      (∀ parts' rest', Cut text parts' rest' → parts' = parts ∧ rest' = rest) ∧
      (∀ out, (ofHistory pairs).resolve text = .ok out ↔ ∃ resolved : List (Text × Text),
        List.Forall₂ (fun part piece => piece.1 = part.1 ∧ Maps pairs part.2 piece.2)
          parts resolved ∧
        out = resolved.flatMap (fun piece => piece.1 ++ piece.2) ++ rest) ∧
      (∀ e, (ofHistory pairs).resolve text = .error e ↔
        ∃ part, FirstOf (fun part => ∀ pair ∈ inserted pairs, pair.1 ≠ part.2) parts part ∧
          e = .unresolvedPlaceholder (style.spell part.2)) ∧
      (∀ tag, Words.upper.spells tag = true → ∀ out,
        (ofHistory pairs).resolve (style.spell tag) = .ok out ↔ Maps pairs tag out) ∧
      ((∀ tag, Words.upper.spells tag = true → ¬style.spell tag <:+: text) →
        (ofHistory pairs).resolve text = .ok text) ∧
      ∀ other, (∀ pair, pair ∈ inserted other ↔ pair ∈ inserted pairs) →
        (ofHistory other).resolve text = (ofHistory pairs).resolve text := by
  obtain ⟨parts, rest, hcut⟩ := Cut.exists_cut text
  refine ⟨parts, rest, hcut, fun _ _ => hcut.unique, fun out => ?_, fun e => ?_,
    fun tag htag out => ?_, resolve_of_tagless, fun other hsame => ?_⟩
  · simp only [hcut.resolve_eq_ok_iff, maps_iff]
  · simp only [hcut.resolve_eq_error_iff, classification_eq_none_iff]
  · rw [maps_iff]
    exact resolve_spell_eq_ok_iff htag
  · rw [ofHistory_congr hsame]

/-- Tags that begin alike, an insertion that comes too late, and a classification that looks like a
tag itself. -/
example : (ofHistory [("A".toList, "x.y".toList), ("A".toList, "z".toList),
      ("A_B".toList, "__STYLE_A__".toList)]).resolve "___STYLE_A__STYLE_A__ __STYLE_A_B__".toList =
    .ok "_x.ySTYLE_A__ __STYLE_A__".toList := ok_of_toOption (by decide +kernel)

end Highlight.StyleMap
