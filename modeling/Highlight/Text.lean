/-!
Text as a list of characters, with the operations that every part of the generator shares.
`after?_eq_some_iff` says that taking an opening off a text is the inverse of putting it in front.
-/

namespace Highlight

/-- The characters of a piece of text, in order. -/
abbrev Text := List Char

instance : LawfulBEq Text := inferInstance

namespace Text

/-- What follows `opening` in a text that begins with it. -/
def after? : (opening text : Text) → Option Text
  | [], text => some text
  | _ :: _, [] => none
  | c :: opening, d :: text => if c = d then after? opening text else none

theorem after?_eq_some_iff {opening text rest : Text} :
    after? opening text = some rest ↔ text = opening ++ rest := by
  induction opening generalizing text with
  | nil => simp [after?]
  | cons c opening ih =>
    cases text with
    | nil => simp [after?]
    | cons d text =>
      by_cases h : c = d
      · subst h; simp [after?, ih]
      · simp [after?, h, Ne.symm h]

def has (piece : Text) : Text → Bool
  | [] => piece.isEmpty
  | c :: text => piece.isPrefixOf (c :: text) || has piece text

def ofNat (n : Nat) : Text := Nat.toDigits 10 n

def join (separator : Text) (texts : List Text) : Text := List.intercalate separator texts

/-- The pieces of a text between the occurrences of `separator`; never the empty list. -/
def split (separator : Char) : Text → List Text
  | [] => [[]]
  | c :: text =>
    match split separator text with
    | [] => [[c]]
    | piece :: pieces => if c = separator then [] :: piece :: pieces else (c :: piece) :: pieces

end Text
end Highlight
