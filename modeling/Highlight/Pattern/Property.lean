import Highlight.Unicode.Age
import Highlight.Unicode.Break

/-!
Unicode properties as a pattern may write them. Names are compared loosely: case, blanks,
underscores, hyphens and a leading `is` do not count.
-/

namespace Highlight.Pattern

open Unicode

inductive Property
  | named (name : Text)
  | valued (name value : Text)
  deriving DecidableEq, Repr

namespace Property

/-- The part of a name that counts when names are compared. -/
def loose (name : Text) : Text :=
  let lead := name.take 2
  let is := lead.map Char.toLower = "is".toList
  let body := ((if is then name.drop 2 else name).filter fun c =>
    c ≠ ' ' && c ≠ '_' && c ≠ '-' && c.toNat < 128).map Char.toLower
  if is && body = "c".toList then "isc".toList else body

def valueSet? (name value : Text) : Option CharSet :=
  if name ∈ words "gc generalcategory" then category? value
  else if name ∈ words "sc script" then script? value
  else if name ∈ words "scx scriptextensions" then scriptExtension? value
  else if name ∈ words "age" then age? value
  else if name ∈ words "gcb graphemeclusterbreak" then graphemeBreak? value
  else if name ∈ words "wb wordbreak" then wordBreak? value
  else if name ∈ words "sb sentencebreak" then sentenceBreak? value
  else none

/-- The characters with a property, if there is one of that name, or with that value. -/
def set? : Property → Option CharSet
  | named name =>
    ((property? (loose name)).or (category? (loose name))).or (script? (loose name))
  | valued name value => valueSet? (loose name) (loose value)

def isKnown (p : Property) : Bool := p.set?.isSome

end Property
end Highlight.Pattern
