import Highlight.Proofs.Token

/-!
Resolution of style tags, one tag or character at a time, and what is known of the classifications
of a map that was built by insertions.
-/

namespace Highlight

def isScopeChar (c : Char) : Bool := Words.scopes.isLetter c || Words.scopes.isJoint c

theorem StyleTag.spells_name (tag : StyleTag) : Words.upper.spells tag.name = true := by
  cases tag <;> decide

namespace TokenShape

theorem style_read?_of_ne {c : Char} (hc : c ≠ '_') (text : Text) :
    style.read? (c :: text) = none := by
  have hopening : Text.after? style.opening (c :: text) = none := if_neg hc.symm
  simp only [read?, hopening]

end TokenShape

namespace StyleMap

variable {m m' : StyleMap} {front rest name text classification out : Text} {b c : Char}

theorem resolve_nil : m.resolve [] = .ok [] := by
  rw [resolve, TokenShape.scan]
  rfl

theorem resolve_cons_of_none (h : TokenShape.style.read? (c :: text) = none) :
    m.resolve (c :: text) = (m.resolve text).map (c :: ·) := by
  simp only [resolve, TokenShape.scan_of_none h, resolvePieces, resolvePiece, bind, Except.bind]
  cases m.resolvePieces (TokenShape.style.scan text) <;> rfl

theorem resolve_append_of_not_mem (h : '_' ∉ front) :
    m.resolve (front ++ rest) = (m.resolve rest).map (front ++ ·) := by
  induction front with
  | nil =>
      rw [List.nil_append]
      cases m.resolve rest <;> rfl
  | cons c front ih =>
      rw [List.mem_cons, not_or] at h
      rw [List.cons_append, resolve_cons_of_none (TokenShape.style_read?_of_ne (Ne.symm h.1) _),
        ih h.2]
      cases m.resolve rest <;> rfl

theorem resolve_of_not_mem (h : '_' ∉ text) : m.resolve text = .ok text := by
  have hresolve : m.resolve (text ++ []) = (m.resolve []).map (text ++ ·) :=
    resolve_append_of_not_mem h
  rwa [List.append_nil, resolve_nil, Except.map, List.append_nil] at hresolve

theorem resolve_of_mapped (hread : TokenShape.style.read? text = some (name, rest))
    (hmapped : m.classification name = some classification) :
    m.resolve text = (m.resolve rest).map (classification ++ ·) := by
  simp only [resolve, TokenShape.scan_of_some hread, resolvePieces, resolvePiece, hmapped, bind,
    Except.bind]
  cases m.resolvePieces (TokenShape.style.scan rest) <;> rfl

theorem resolve_of_unmapped (hread : TokenShape.style.read? text = some (name, rest))
    (hunmapped : m.classification name = none) :
    m.resolve text = .error (.unresolvedPlaceholder (TokenShape.style.spell name)) := by
  simp only [resolve, TokenShape.scan_of_some hread, resolvePieces, resolvePiece, hunmapped, bind,
    Except.bind]

theorem resolve_tag_eq_ok_iff (h : TokenShape.style.read? text = some (name, rest)) :
    m.resolve text = .ok out ↔ ∃ classification after,
      m.classification name = some classification ∧ m.resolve rest = .ok after ∧
        out = classification ++ after := by
  cases hmapped : m.classification name with
  | none =>
      rw [resolve_of_unmapped h hmapped]
      exact iff_of_false nofun nofun
  | some classification =>
      rw [resolve_of_mapped h hmapped, map_eq_ok_iff]
      simp only [Option.some.injEq, exists_and_left, exists_eq_left', eq_comm]

theorem resolve_spell_eq_ok_iff (h : Words.upper.spells name = true) :
    m.resolve (TokenShape.style.spell name) = .ok out ↔ m.classification name = some out := by
  have hread := TokenShape.style_read?_eq_some_iff.2 ⟨h, (List.append_nil _).symm⟩
  rw [resolve_tag_eq_ok_iff hread]
  simp only [resolve_nil, Except.ok.injEq, exists_and_left, exists_eq_left', List.append_nil,
    exists_eq_right']

/-- Resolution is cut at a character that is in no tag. -/
theorem resolve_break_eq_ok_iff (hb : isTokenChar b = false) :
    m.resolve (front ++ b :: rest) = .ok out ↔ ∃ first last,
      m.resolve front = .ok first ∧ m.resolve rest = .ok last ∧ out = first ++ b :: last := by
  simp only [resolve, TokenShape.scan_append_break solid_style hb, resolvePieces_append,
    resolvePieces, resolvePiece, bind_eq_ok_iff]
  constructor
  · intro hall
    obtain ⟨first, hfirst, _, ⟨_, ⟨⟩, last, hlast, ⟨⟩⟩, ⟨⟩⟩ := hall
    exact ⟨first, last, hfirst, hlast, rfl⟩
  · intro hall
    obtain ⟨first, last, hfirst, hlast, rfl⟩ := hall
    exact ⟨first, hfirst, b :: last, ⟨[b], rfl, last, hlast, rfl⟩, rfl⟩

theorem head?_resolve (h : m.resolve text = .ok out) (hhead : text.head? ≠ some '_') :
    out.head? = text.head? := by
  cases text with
  | nil =>
      cases resolve_nil.symm.trans h
      rfl
  | cons c text =>
      have hc : c ≠ '_' := fun heq => hhead (congrArg some heq)
      rw [resolve_cons_of_none (TokenShape.style_read?_of_ne hc text), map_eq_ok_iff] at h
      obtain ⟨after, -, rfl⟩ := h
      rfl

theorem insert_eq_ok_iff {tag classification : Text} : m.insert tag classification = .ok m' ↔
    isPlaceholderName tag = true ∧ Words.scopes.spells classification = true ∧
      m.entries.contains tag = false ∧ m' = ⟨m.entries.insert tag classification⟩ := by
  rw [StyleMap.insert]
  cases isPlaceholderName tag with
  | false => simp
  | true =>
      cases Words.scopes.spells classification with
      | false => simp
      | true =>
          cases m.entries.contains tag with
          | true => simp
          | false => simp [eq_comm]

def Checked (m : StyleMap) : Prop :=
  ∀ tag classification, m.classification tag = some classification →
    isPlaceholderName tag = true ∧ Words.scopes.spells classification = true

theorem Checked.insert {tag classification : Text} (hm : m.Checked)
    (h : m.insert tag classification = .ok m') : m'.Checked := by
  obtain ⟨htag, hspells, -, rfl⟩ := insert_eq_ok_iff.1 h
  intro other text hother
  rw [StyleMap.classification, Dictionary.get?_insert] at hother
  split at hother
  · next heq =>
      cases hother
      exact ⟨heq ▸ htag, hspells⟩
  · exact hm other text hother

theorem Checked.insertAll {pairs : List (Text × Text)} (hm : m.Checked)
    (h : m.insertAll pairs = .ok m') : m'.Checked := by
  induction pairs generalizing m with
  | nil =>
      cases h
      exact hm
  | cons pair pairs ih =>
      obtain ⟨tag, text⟩ := pair
      obtain ⟨next, hinsert, hrest⟩ := bind_eq_ok_iff.1 h
      exact ih (hm.insert hinsert) hrest

theorem checked_empty : Checked empty := by
  intro tag classification hmapped
  cases hmapped

theorem checked_of_ofPairs {pairs : List (Text × Text)} (h : ofPairs pairs = .ok m) :
    m.Checked :=
  checked_empty.insertAll h

def Scoped (m : StyleMap) : Prop :=
  ∀ tag classification, m.classification tag = some classification →
    ∀ c ∈ classification, isScopeChar c = true

theorem scoped_of_ofPairs {pairs : List (Text × Text)} (h : ofPairs pairs = .ok m) : m.Scoped :=
  fun tag classification hmapped =>
    Words.of_mem_of_spells (checked_of_ofPairs h tag classification hmapped).2

end StyleMap

end Highlight
