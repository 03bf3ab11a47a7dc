import Highlight.Unicode.Derived

/-!
Characters that may stand in the name of a capture group. Letters and digits are those of a newer
edition of Unicode than the one that properties are taken from.
-/

namespace Highlight.Pattern

open Unicode

def nameLetters : CharSet :=
  alphabetic.union (codePoints
    "88F C5C CDC A7CE-A7CF A7D2 A7D4 A7F1 10940-10959 10EC5-10EC7 10EFA-10EFB 11B60-11B67
    11DB0-11DDB 16EA0-16EB8 16EBB-16ED3 16FF2-16FF6 187F8-187FF 18D09-18D1E 18D80-18DF2
    1E6C0-1E6DE 1E6E0-1E6F5 1E6FE-1E6FF 2B73A-2B73F 2CEA2-2CEAD 323B0-33479")

def nameDigits : CharSet :=
  (categories "nd nl no").union (codePoints "11DE0-11DE9 16FF4-16FF6")

def isAlphabetic (c : Char) : Bool :=
  if c.toNat < 128 then c.isAlpha else nameLetters.contains c

def isNumeric (c : Char) : Bool := if c.toNat < 128 then c.isDigit else nameDigits.contains c

def isNameChar (atStart : Bool) (c : Char) : Bool :=
  c = '_' || isAlphabetic c || (!atStart && (c = '.' || c = '[' || c = ']' || isNumeric c))

end Highlight.Pattern
