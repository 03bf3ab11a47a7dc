import Highlight.Proofs.Outcome
import Highlight.Style

/-!
Where a text may be cut for scanning. A style tag, and anything shaped like a placeholder, consists
of capitals, digits and underscores; at any other character a scan starts afresh, and so does the
resolution of style tags.
-/

namespace Highlight

def isTokenChar (c : Char) : Bool := Words.upper.isLetter c || c = '_'

/-- A shape of tokens that consist of token characters altogether. -/
structure TokenShape.Solid (t : TokenShape) : Prop where
  opening : ∀ c ∈ t.opening, isTokenChar c
  closing : ∀ c ∈ t.closing, isTokenChar c
  opening_ne_nil : t.opening ≠ []

variable {t : TokenShape} {b : Char} {text rest : Text}

theorem solid_style : TokenShape.style.Solid :=
  ⟨forall_mem_of_all (by decide), forall_mem_of_all (by decide), by decide⟩

theorem solid_any : TokenShape.any.Solid :=
  ⟨forall_mem_of_all (by decide), forall_mem_of_all (by decide), by decide⟩

theorem after?_append_break {opening : Text} (hb : b ∉ opening) (text rest : Text) :
    Text.after? opening (text ++ b :: rest) =
      (Text.after? opening text).map (· ++ b :: rest) := by
  induction opening generalizing text with
  | nil => rfl
  | cons c opening ih =>
      obtain ⟨hc, hopening⟩ : b ≠ c ∧ b ∉ opening := by simpa using hb
      cases text with
      | nil => simp [Text.after?, Ne.symm hc]
      | cons d text =>
          by_cases hd : c = d
          · simpa [Text.after?, hd] using ih hopening text
          · simp [Text.after?, hd]

theorem split_append_break (hb : isTokenChar b = false) (text rest : Text) :
    Words.upper.split (text ++ b :: rest) =
      ((Words.upper.split text).1, (Words.upper.split text).2 ++ b :: rest) := by
  obtain ⟨hletter, hjoint⟩ : Words.upper.isLetter b = false ∧ b ≠ '_' := by
    simpa [isTokenChar] using hb
  have hjoint' : Words.upper.isJoint b = false := decide_eq_false hjoint
  induction text with
  | nil => simp [Words.split, hletter, hjoint']
  | cons c text ih =>
      have hhead : (text ++ b :: rest).head?.any Words.upper.isLetter =
          text.head?.any Words.upper.isLetter := by
        cases text with
        | nil => simp [hletter]
        | cons d text => rfl
      simp only [List.cons_append, Words.split, hhead]
      split
      · rw [ih]
      · rfl

theorem Words.of_mem_split (w : Words) (text : Text) :
    ∀ c ∈ (w.split text).1, (w.isLetter c || w.isJoint c) = true := by
  induction text with
  | nil => nofun
  | cons d text ih =>
      intro c hc
      simp only [split] at hc
      split at hc
      · next hd =>
          rcases List.mem_cons.1 hc with rfl | hc
          · simp only [Bool.or_eq_true, Bool.and_eq_true] at hd ⊢
            exact hd.imp id And.left
          · exact ih c hc
      · cases hc

theorem Words.of_mem_of_spells {w : Words} {text : Text} (h : w.spells text = true) :
    ∀ c ∈ text, (w.isLetter c || w.isJoint c) = true := by
  obtain ⟨-, hrest⟩ := Bool.and_eq_true_iff.1 h
  have hsplit := w.split_append text
  rw [List.isEmpty_iff.1 hrest, List.append_nil] at hsplit
  rw [← hsplit]
  exact w.of_mem_split text

namespace TokenShape

theorem Solid.not_mem (ht : t.Solid) (hb : isTokenChar b = false) :
    b ∉ t.opening ∧ b ∉ t.closing := by
  constructor
  · intro hmem
    rw [ht.opening b hmem] at hb
    cases hb
  · intro hmem
    rw [ht.closing b hmem] at hb
    cases hb

theorem read?_append_break (ht : t.Solid) (hb : isTokenChar b = false) (text rest : Text) :
    t.read? (text ++ b :: rest) =
      (t.read? text).map fun (name, after) => (name, after ++ b :: rest) := by
  obtain ⟨hopening, hclosing⟩ := ht.not_mem hb
  simp only [read?]
  rw [after?_append_break hopening]
  cases Text.after? t.opening text with
  | none => rfl
  | some inner =>
      simp only [Option.map_some, split_append_break hb, after?_append_break hclosing]
      split
      · cases Text.after? t.closing (Words.upper.split inner).2 with
        | none => rfl
        | some after => rfl
      · rfl

theorem read?_nil (ht : t.Solid) : t.read? [] = none := by
  obtain ⟨c, opening, hopening⟩ := List.exists_cons_of_ne_nil ht.opening_ne_nil
  simp [read?, hopening, Text.after?]

theorem isTokenChar_name {name : Text} (h : t.read? text = some (name, rest)) :
    ∀ c ∈ name, isTokenChar c = true := by
  rw [read?] at h
  split at h
  · cases h
  · next inner hinner =>
      split at h
      · split at h
        · cases h
        · cases h
          exact Words.upper.of_mem_split inner
      · cases h

theorem isTokenChar_spell (ht : t.Solid) {name : Text} (h : t.read? text = some (name, rest)) :
    ∀ c ∈ t.spell name, isTokenChar c = true := by
  intro c hc
  rw [spell, List.append_assoc, List.mem_append, List.mem_append] at hc
  rcases hc with hc | hc | hc
  · exact ht.opening c hc
  · exact isTokenChar_name h c hc
  · exact ht.closing c hc

theorem isTokenChar_of_mem_scan {name : Text} (h : .token name ∈ t.scan text) :
    ∀ c ∈ name, isTokenChar c = true := by
  fun_induction scan t text with
  | case1 => cases h
  | case2 c text other after hread ih =>
      rcases List.mem_cons.1 h with heq | h
      · cases heq
        exact isTokenChar_name hread
      · exact ih h
  | case3 c text hread ih =>
      rcases List.mem_cons.1 h with heq | h
      · cases heq
      · exact ih h

theorem scan_of_none {c : Char} (h : t.read? (c :: text) = none) :
    t.scan (c :: text) = .char c :: t.scan text := by
  rw [scan]
  split
  · next heq =>
      rw [h] at heq
      cases heq
  · rfl

theorem scan_of_some {name : Text} (h : t.read? text = some (name, rest)) :
    t.scan text = .token name :: t.scan rest := by
  cases text with
  | nil =>
      have hlt := length_of_read? h
      cases hlt
  | cons c text =>
      rw [scan]
      split
      · next heq =>
          rw [h] at heq
          cases heq
          rfl
      · next heq =>
          rw [h] at heq
          cases heq

/-- A scan is cut at a character that is in no token: everything about scanning by pieces follows
from this one equation. -/
theorem scan_append_break (ht : t.Solid) (hb : isTokenChar b = false) (text rest : Text) :
    t.scan (text ++ b :: rest) = t.scan text ++ .char b :: t.scan rest := by
  fun_induction scan t text with
  | case1 =>
      apply scan_of_none
      rw [← List.nil_append (b :: rest), read?_append_break ht hb, read?_nil ht]
      rfl
  | case2 c text name after h ih =>
      have hread : t.read? (c :: text ++ b :: rest) = some (name, after ++ b :: rest) := by
        rw [read?_append_break ht hb, h]
        rfl
      rw [scan_of_some hread, ih]
      rfl
  | case3 c text h ih =>
      have hread : t.read? (c :: (text ++ b :: rest)) = none := by
        rw [← List.cons_append, read?_append_break ht hb, h]
        rfl
      rw [List.cons_append, scan_of_none hread, ih]
      rfl

end TokenShape

/-- A text that begins and ends with characters that are in no token. -/
structure Fenced (text : Text) : Prop where
  first : ∃ b rest, isTokenChar b = false ∧ text = b :: rest
  last : ∃ rest b, isTokenChar b = false ∧ text = rest ++ [b]

namespace TokenShape

theorem scan_cons_break (ht : t.Solid) (hb : isTokenChar b = false) (rest : Text) :
    t.scan (b :: rest) = .char b :: t.scan rest := by
  have h := scan_append_break ht hb [] rest
  rwa [scan] at h

theorem scan_append_of_first (ht : t.Solid) (text : Text)
    (h : ∃ b after, isTokenChar b = false ∧ rest = b :: after) :
    t.scan (text ++ rest) = t.scan text ++ t.scan rest := by
  obtain ⟨b, after, hb, rfl⟩ := h
  rw [scan_append_break ht hb, scan_cons_break ht hb]

theorem scan_append_of_last (ht : t.Solid) (rest : Text)
    (h : ∃ before b, isTokenChar b = false ∧ text = before ++ [b]) :
    t.scan (text ++ rest) = t.scan text ++ t.scan rest := by
  obtain ⟨before, b, hb, rfl⟩ := h
  rw [List.append_assoc, List.singleton_append, scan_append_break ht hb,
    scan_append_break ht hb before [], List.append_assoc]
  rw [scan]
  rfl

end TokenShape

def Piece.IsToken : Piece → Prop
  | char _ => False
  | token _ => True

theorem findSome?_eq_some_iff {pieces : List Piece} {name : Text} :
    (pieces.findSome? fun
      | .char _ => none
      | .token name => some name) = some name ↔ FirstOf Piece.IsToken pieces (.token name) := by
  induction pieces with
  | nil => simp [firstOf_nil]
  | cons piece pieces ih =>
      cases piece with
      | char c => simp [firstOf_cons, Piece.IsToken, ih]
      | token other => simp [firstOf_cons, Piece.IsToken, eq_comm]

theorem TokenShape.first?_eq_some_iff {name : Text} :
    t.first? text = some name ↔ FirstOf Piece.IsToken (t.scan text) (.token name) :=
  findSome?_eq_some_iff

theorem TokenShape.first?_eq_none_iff :
    t.first? text = none ↔ ∀ piece ∈ t.scan text, ¬piece.IsToken := by
  rw [first?, List.findSome?_eq_none_iff]
  refine forall_congr' fun piece => imp_congr_right fun _ => ?_
  cases piece <;> simp [Piece.IsToken]

namespace StyleMap

variable (m : StyleMap)

theorem resolvePieces_append (front back : List Piece) :
    m.resolvePieces (front ++ back) = (do
      let first ← m.resolvePieces front
      let last ← m.resolvePieces back
      return first ++ last) := by
  induction front with
  | nil =>
      simp only [List.nil_append, resolvePieces, bind, Except.bind]
      cases m.resolvePieces back <;> rfl
  | cons piece front ih =>
      simp only [List.cons_append, resolvePieces, ih, bind, Except.bind]
      cases m.resolvePiece piece with
      | error e => rfl
      | ok first =>
          cases m.resolvePieces front with
          | error e => rfl
          | ok middle =>
              cases m.resolvePieces back with
              | error e => rfl
              | ok last => exact congrArg Except.ok (List.append_assoc _ _ _).symm

/-- A style tag without a classification. -/
def Unmapped : Piece → Prop
  | .char _ => False
  | .token tag => m.classification tag = none

theorem resolvePieces_eq_error_iff {pieces : List Piece} {e : Error} :
    m.resolvePieces pieces = .error e ↔ ∃ tag, FirstOf m.Unmapped pieces (.token tag) ∧
      e = .unresolvedPlaceholder (TokenShape.style.spell tag) := by
  induction pieces with
  | nil => simp [resolvePieces, firstOf_nil]
  | cons piece pieces ih =>
      have hrest (hmapped : ¬m.Unmapped piece) {first : Text}
          (hfirst : m.resolvePiece piece = .ok first) :
          m.resolvePieces (piece :: pieces) = .error e ↔
            ∃ tag, FirstOf m.Unmapped (piece :: pieces) (.token tag) ∧
              e = .unresolvedPlaceholder (TokenShape.style.spell tag) := by
        simp only [firstOf_cons, hmapped, false_and, not_false_eq_true, true_and, false_or, ← ih,
          resolvePieces, hfirst, bind, Except.bind]
        cases m.resolvePieces pieces with
        | error other => rfl
        | ok rest => simp [pure, Except.pure]
      cases piece with
      | char c => exact hrest id rfl
      | token tag =>
          cases htag : m.classification tag with
          | some classification =>
              have hresolved : m.resolvePiece (.token tag) = .ok classification := by
                simp only [resolvePiece, htag]
              exact hrest (by simp [Unmapped, htag]) hresolved
          | none =>
              have hunmapped : m.Unmapped (.token tag) := htag
              simp only [firstOf_cons, hunmapped, true_and, not_true_eq_false, false_and, or_false,
                Piece.token.injEq, resolvePieces, resolvePiece, htag, bind, Except.bind,
                Except.error.injEq, exists_eq_left]
              exact eq_comm

end StyleMap

end Highlight
