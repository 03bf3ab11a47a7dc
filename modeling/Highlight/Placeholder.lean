import Highlight.Words

/-!
The placeholders of a template. A token is an opening, a name and a closing; `scan` cuts a text
into its leftmost non-overlapping tokens and the characters between them, and
`spell_scan` says that nothing is lost.
-/

namespace Highlight

structure TokenShape where
  opening : Text
  isFirst : Char → Bool
  closing : Text

/-- A stretch of scanned text: one plain character, or a token with its name. -/
inductive Piece
  | char (c : Char)
  | token (name : Text)
  deriving DecidableEq, Repr

namespace TokenShape

def spell (t : TokenShape) (name : Text) : Text := t.opening ++ name ++ t.closing

def read? (t : TokenShape) (text : Text) : Option (Text × Text) :=
  match Text.after? t.opening text with
  | none => none
  | some inner =>
    if (Words.upper.split inner).1.head?.any t.isFirst then
      match Text.after? t.closing (Words.upper.split inner).2 with
      | none => none
      | some rest => some ((Words.upper.split inner).1, rest)
    else none

theorem eq_spell_of_read? {t : TokenShape} {text name rest : Text}
    (h : t.read? text = some (name, rest)) : name ≠ [] ∧ text = t.spell name ++ rest := by
  unfold read? at h
  split at h
  · simp at h
  · next inner hinner =>
    split at h
    · next hfirst =>
      split at h
      · simp at h
      · next left hleft =>
        simp only [Option.some.injEq, Prod.mk.injEq] at h
        obtain ⟨rfl, rfl⟩ := h
        rw [Text.after?_eq_some_iff] at hinner hleft
        constructor
        · intro hnil
          simp [hnil] at hfirst
        · rw [hinner, spell, ← Words.upper.split_append inner, hleft]
          simp [← hleft, Words.upper.split_append inner]
    · simp at h

theorem length_of_read? {t : TokenShape} {text name rest : Text}
    (h : t.read? text = some (name, rest)) : rest.length < text.length := by
  obtain ⟨hname, htext⟩ := eq_spell_of_read? h
  have := List.length_pos_iff.2 hname
  simp only [htext, spell, List.length_append]
  omega

/-- Cuts a text into its leftmost non-overlapping tokens and the characters between them. -/
def scan (t : TokenShape) : Text → List Piece
  | [] => []
  | c :: text =>
    match _h : t.read? (c :: text) with
    | some (name, rest) => .token name :: scan t rest
    | none => .char c :: scan t text
termination_by text => text.length
decreasing_by
  · exact length_of_read? (by assumption)
  · simp

/-- The text of a stretch. -/
def spellPiece (t : TokenShape) : Piece → Text
  | .char c => [c]
  | .token name => t.spell name

theorem spell_scan (t : TokenShape) (text : Text) : (t.scan text).flatMap t.spellPiece = text := by
  fun_induction scan t text with
  | case1 => rfl
  | case2 c text name rest h ih =>
    simp [spellPiece, ih, (eq_spell_of_read? h).2]
  | case3 c text h ih => simp [spellPiece, ih]

def first? (t : TokenShape) (text : Text) : Option Text :=
  (t.scan text).findSome? fun
    | .char _ => none
    | .token name => some name

def style : TokenShape where
  opening := "__STYLE_".toList
  isFirst := Words.upper.isLetter
  closing := "__".toList

/-- A JSON string that holds nothing but a placeholder, quotes included. -/
def quoted : TokenShape where
  opening := "\"__".toList
  isFirst := Char.isUpper
  closing := "__\"".toList

/-- Anything that looks like a placeholder of either kind. -/
def any : TokenShape where
  opening := "__".toList
  isFirst := Char.isUpper
  closing := "__".toList

end TokenShape

/-- What a name begins with when the quoted placeholder is a style tag and no slot. -/
def stylePrefix : Text := "STYLE_".toList

end Highlight
