import Highlight.Text

/-!
Names made of words with single joints between them, such as `font-weight` or `PROP_NAME`.
`split` takes the longest such run off the front of a text, and `spells` asks for nothing else.
-/

namespace Highlight

/-- Which characters form words, and which characters may stand between two words. -/
structure Words where
  isLetter : Char → Bool
  isJoint : Char → Bool

namespace Words

/-- Takes off the longest run in which every joint is followed by a letter. -/
def split (w : Words) : Text → Text × Text
  | [] => ([], [])
  | c :: text =>
    if w.isLetter c || (w.isJoint c && text.head?.any w.isLetter) then
      (c :: (w.split text).1, (w.split text).2)
    else ([], c :: text)

def spells (w : Words) (text : Text) : Bool :=
  text.head?.any w.isLetter && (w.split text).2.isEmpty

theorem split_append (w : Words) (text : Text) : (w.split text).1 ++ (w.split text).2 = text := by
  induction text with
  | nil => rfl
  | cons c text ih =>
    unfold split
    split
    · simp [ih]
    · rfl

def upper : Words where
  isLetter c := c.isUpper || c.isDigit
  isJoint c := c = '_'

def hyphenated : Words where
  isLetter c := c.isLower
  isJoint c := c = '-'

/-- Scope names: dotted words, several of them separated by single blanks. -/
def scopes : Words where
  isLetter c := c.isAlphanum || c = '_' || c = '-'
  isJoint c := c = '.' || c = ' '

end Words

/-- Upper case words joined by underscores, the first beginning with a letter. -/
def isPlaceholderName (name : Text) : Bool :=
  name.head?.any Char.isUpper && Words.upper.spells name

end Highlight
