import Highlight.Json
import Highlight.Json.Token

/-!
The spelling of strings. A spelling is taken apart into plain characters and escapes, `Spells` says
what it stands for; a string is read up to its own closing quote, and what `Json.escape` writes is
read back.
-/

namespace Highlight.Json

structure IsPlain (c : Char) : Prop where
  not_quote : c ≠ '"'
  not_backslash : c ≠ '\\'
  not_control : ¬c.toNat < 0x20

/-- What stands behind a backslash: it is read the same whatever follows it, and taking a string up
to its closing quote passes over it. -/
structure IsEscape (used : Text) (c : Char) : Prop where
  read : ∀ rest, escape? (used ++ rest) = some (c, rest)
  taken : ∀ rest, takeSpelling? ('\\' :: (used ++ rest)) =
    (takeSpelling? rest).map fun (inner, after) => ('\\' :: (used ++ inner), after)
  solid : '_' ∉ used

inductive Spells : Text → Text → Prop
  | nil : Spells [] []
  | plain {c : Char} {s t : Text} (hc : IsPlain c) (h : Spells s t) : Spells (c :: s) (c :: t)
  | escape {used s t : Text} {c : Char} (hused : IsEscape used c) (h : Spells s t) :
      Spells ('\\' :: (used ++ s)) (c :: t)

variable {c d : Char} {text rest used s t : Text}

theorem takeSpelling?_cons (hquote : c ≠ '"') (hbackslash : c ≠ '\\') (rest : Text) :
    takeSpelling? (c :: rest) =
      (takeSpelling? rest).map fun (inner, after) => (c :: inner, after) := by
  rw [takeSpelling?.eq_def]
  simp only [hquote, hbackslash, if_false]

theorem isSome_digitValue? {a : Nat} (h : digitValue? c = some a) :
    c ≠ '"' ∧ c ≠ '\\' ∧ c ≠ '_' := by
  refine ⟨?_, ?_, ?_⟩
  all_goals
    intro heq
    subst heq
    cases h

structure IsUnit (used : Text) (unit : Nat) : Prop where
  read : ∀ rest, unit? (used ++ rest) = some (unit, rest)
  taken : ∀ rest, takeSpelling? (used ++ rest) =
    (takeSpelling? rest).map fun (inner, after) => (used ++ inner, after)
  solid : '_' ∉ used

theorem exists_isUnit {unit : Nat} (h : unit? text = some (unit, rest)) :
    ∃ used, IsUnit used unit ∧ text = used ++ rest := by
  simp only [unit?] at h
  split at h
  · next a b c d text =>
      split at h
      · next i j k l ha hb hc hd =>
          cases h
          have hunit (rest : Text) :
              unit? ([a, b, c, d] ++ rest) = some (4096 * i + 256 * j + 16 * k + l, rest) := by
            simp only [List.cons_append, List.nil_append, unit?, ha, hb, hc, hd]
          obtain ⟨ha1, ha2, ha3⟩ := isSome_digitValue? ha
          obtain ⟨hb1, hb2, hb3⟩ := isSome_digitValue? hb
          obtain ⟨hc1, hc2, hc3⟩ := isSome_digitValue? hc
          obtain ⟨hd1, hd2, hd3⟩ := isSome_digitValue? hd
          refine ⟨[a, b, c, d], ⟨hunit, fun rest => ?_, ?_⟩, rfl⟩
          · simp only [List.cons_append, List.nil_append, takeSpelling?_cons ha1 ha2,
              takeSpelling?_cons hb1 hb2, takeSpelling?_cons hc1 hc2, takeSpelling?_cons hd1 hd2,
              Option.map_map]
            rfl
          · simp [ha3.symm, hb3.symm, hc3.symm, hd3.symm]
      · cases h
  · cases h

theorem takeSpelling?_backslash (d : Char) (rest : Text) :
    takeSpelling? ('\\' :: d :: rest) =
      (takeSpelling? rest).map fun (inner, after) => ('\\' :: d :: inner, after) := by
  rw [takeSpelling?]
  rfl

theorem isEscape_single (hread : ∀ rest, escape? (d :: rest) = some (c, rest)) (hd : d ≠ '_') :
    IsEscape [d] c :=
  ⟨hread, takeSpelling?_backslash d, by simpa using hd.symm⟩

theorem exists_isEscape_unitChar (h : unitChar? text = some (c, rest)) :
    ∃ used, IsEscape ('u' :: used) c ∧ text = used ++ rest := by
  rw [unitChar?] at h
  split at h
  · cases h
  · next unit after hunit =>
      obtain ⟨lead, hlead, rfl⟩ := exists_isUnit hunit
      split at h
      · next hsurrogate =>
          split at h
          · next after =>
              split at h
              · next trail after htrail =>
                  obtain ⟨used, hused, rfl⟩ := exists_isUnit htrail
                  split at h
                  · next hlow =>
                      simp only [Option.some.injEq, Prod.mk.injEq] at h
                      obtain ⟨rfl, rfl⟩ := h
                      refine ⟨lead ++ '\\' :: 'u' :: used, ⟨fun rest => ?_, fun rest => ?_, ?_⟩, ?_⟩
                      · change unitChar? ((lead ++ '\\' :: 'u' :: used) ++ rest) = some (surrogateChar unit trail, rest)
                        rw [List.append_assoc, unitChar?, hlead.read]
                        simp only [hsurrogate, if_true, List.cons_append, hused.read, hlow]
                      · simp only [List.cons_append, List.append_assoc, takeSpelling?_backslash,
                          hlead.taken, hused.taken, Option.map_map]
                        rfl
                      · simp [hlead.solid, hused.solid]
                      · simp
                  · cases h
              · cases h
          · cases h
      · next hlead' =>
          split at h
          · cases h
          · next htrail' =>
              cases h
              refine ⟨lead, ⟨fun rest => ?_, fun rest => ?_, ?_⟩, rfl⟩
              · change unitChar? (lead ++ rest) = _
                rw [unitChar?, hlead.read]
                simp only [hlead', htrail', if_false, Bool.false_eq_true]
              · simp only [List.cons_append, takeSpelling?_backslash, hlead.taken, Option.map_map]
                rfl
              · simp [hlead.solid]

theorem exists_isEscape (h : escape? text = some (c, rest)) :
    ∃ used, IsEscape used c ∧ text = used ++ rest := by
  cases text with
  | nil => cases h
  | cons d text =>
      simp only [escape?] at h
      split at h
      · next hd =>
          obtain ⟨used, hused, rfl⟩ := exists_isEscape_unitChar h
          exact ⟨'u' :: used, hused, by rw [hd]; rfl⟩
      · next hd =>
          obtain ⟨rfl, hsingle, hsolid⟩ : text = rest ∧
              (∀ rest, escape? (d :: rest) = some (c, rest)) ∧ d ≠ '_' := by
            simp only [escape?, hd, if_false]
            split at h
            · next hself =>
                cases h
                refine ⟨rfl, fun rest => by rw [if_pos hself], ?_⟩
                intro heq
                subst heq
                cases hself
            iterate 5
              split at h
              · next heq =>
                  cases h
                  cases heq
                  exact ⟨rfl, fun rest => rfl, by decide⟩
            cases h
          exact ⟨[d], isEscape_single hsingle hsolid, rfl⟩

theorem decode?_escape_cons (hused : IsEscape used c) (s : Text) :
    decode? ('\\' :: (used ++ s)) = (decode? s).map (c :: ·) := by
  rw [decode?, if_pos rfl]
  split
  · next heq =>
      cases (hused.read s).symm.trans heq
      rfl
  · next heq => cases (hused.read s).symm.trans heq

theorem decode?_plain_cons (hc : IsPlain c) (s : Text) :
    decode? (c :: s) = (decode? s).map (c :: ·) := by
  rw [decode?, if_neg hc.not_backslash, if_neg]
  simpa [hc.not_quote] using hc.not_control

theorem decode?_eq_some_iff : decode? s = some t ↔ Spells s t := by
  constructor
  · intro h
    fun_induction decode? s generalizing t with
    | case1 =>
        cases h
        exact .nil
    | case2 text d rest hread ih =>
        obtain ⟨after, hafter, rfl⟩ := Option.map_eq_some_iff.1 h
        obtain ⟨used, hused, rfl⟩ := exists_isEscape hread
        exact .escape hused (ih hafter)
    | case3 => cases h
    | case4 => cases h
    | case5 c text hbackslash hrefused ih =>
        obtain ⟨after, hafter, rfl⟩ := Option.map_eq_some_iff.1 h
        simp only [Bool.or_eq_true, decide_eq_true_eq, not_or] at hrefused
        exact .plain ⟨hrefused.1, hbackslash, hrefused.2⟩ (ih hafter)
  · intro h
    induction h with
    | nil => rw [decode?]
    | plain hc h ih => rw [decode?_plain_cons hc, ih, Option.map_some]
    | escape hused h ih => rw [decode?_escape_cons hused, ih, Option.map_some]

theorem Spells.takeSpelling? (h : Spells s t) (rest : Text) :
    takeSpelling? (s ++ '"' :: rest) = some (s, rest) := by
  induction h with
  | nil =>
      rw [List.nil_append, Json.takeSpelling?.eq_def]
      rfl
  | plain hc h ih =>
      rw [List.cons_append, takeSpelling?_cons hc.not_quote hc.not_backslash, ih, Option.map_some]
  | escape hused h ih =>
      rw [List.cons_append, List.append_assoc, hused.taken, ih, Option.map_some]

theorem eq_of_takeSpelling? {inner : Text} (h : takeSpelling? text = some (inner, rest)) :
    text = inner ++ '"' :: rest := by
  fun_induction takeSpelling? text generalizing inner with
  | case1 => cases h
  | case2 text =>
      cases h
      rfl
  | case3 => cases h
  | case4 d text _ ih =>
      obtain ⟨⟨i, r⟩, hread, h⟩ := Option.map_eq_some_iff.1 h
      cases h
      rw [ih hread]
      rfl
  | case5 c text _ _ ih =>
      obtain ⟨⟨i, r⟩, hread, h⟩ := Option.map_eq_some_iff.1 h
      cases h
      rw [ih hread]
      rfl

theorem isEscape_of_escape? (h : escape? used = some (c, [])) : IsEscape used c := by
  obtain ⟨used', hused, rfl⟩ := exists_isEscape h
  rwa [List.append_nil]

theorem escape?_control : ∀ n < 0x20,
    escape? ['u', '0', '0', hexDigit (n / 16), hexDigit n] = some (Char.ofNat n, []) := by
  decide

theorem escapeChar_cases (c : Char) : IsPlain c ∧ escapeChar c = [c] ∨
    ∃ used, IsEscape used c ∧ escapeChar c = '\\' :: used := by
  rw [escapeChar]
  iterate 7
    split
    · next heq =>
        cases heq
        exact .inr ⟨_, isEscape_of_escape? rfl, rfl⟩
  split
  · next hcontrol =>
      have hread := escape?_control c.toNat hcontrol
      rw [Char.ofNat_toNat] at hread
      exact .inr ⟨_, isEscape_of_escape? hread, rfl⟩
  · next hquote hbackslash _ _ _ _ _ hcontrol =>
      exact .inl ⟨⟨hquote, hbackslash, hcontrol⟩, rfl⟩

theorem escape_cons (c : Char) (s : Text) : escape (c :: s) = escapeChar c ++ escape s := rfl

theorem escape_append (s t : Text) : escape (s ++ t) = escape s ++ escape t :=
  List.flatMap_append

theorem escapeChar_of_isPlain (hc : IsPlain c) : escapeChar c = [c] := by
  have hne {d : Char} (hd : d.toNat < 0x20) : c ≠ d := fun heq => hc.not_control (heq ▸ hd)
  rw [escapeChar, if_neg hc.not_quote, if_neg hc.not_backslash]
  iterate 5 rw [if_neg (hne (by decide))]
  exact if_neg hc.not_control

theorem escape_of_isPlain (h : ∀ c ∈ s, IsPlain c) : escape s = s := by
  induction s with
  | nil => rfl
  | cons c s ih =>
      obtain ⟨hc, hs⟩ := List.forall_mem_cons.1 h
      rw [escape_cons, escapeChar_of_isPlain hc, ih hs, List.singleton_append]

theorem Spells.escapeChar (h : Spells s t) (c : Char) : Spells (escapeChar c ++ s) (c :: t) := by
  rcases escapeChar_cases c with ⟨hc, heq⟩ | ⟨used, hused, heq⟩
  · rw [heq]
    exact .plain hc h
  · rw [heq]
    exact .escape hused h

/-- Every text is read back from what is written for it. -/
theorem spells_escape (s : Text) : Spells (escape s) s := by
  induction s with
  | nil => exact .nil
  | cons c s ih => exact ih.escapeChar c

end Highlight.Json
