import Highlight.Unicode.Category
import Highlight.Unicode.PropertyList

/-!
Properties that follow from general categories and listed properties.
-/

namespace Highlight.Unicode

def alphabetic : CharSet := (categories "lu ll lt lm lo nl").union (listed "oalpha")

def lowercase : CharSet := (categories "ll").union (listed "olower")

def uppercase : CharSet := (categories "lu").union (listed "oupper")

def cased : CharSet := .unionAll [lowercase, uppercase, categories "lt"]

def mathematical : CharSet := (categories "sm").union (listed "omath")

def graphemeExtend : CharSet := (categories "me mn").union (listed "ogrext")

def graphemeBase : CharSet :=
  (CharSet.unionAll [categories "cc cf co zl zp", unassigned, graphemeExtend]).complement

def caseIgnorable : CharSet :=
  (categories "mn me cf lm sk").union (codePoints
    "27 2E 3A B7 387 55F 5F4 2018-2019 2024 2027 FE13 FE52 FE55 FF07 FF0E FF1A")

def defaultIgnorable : CharSet :=
  (CharSet.unionAll [listed "odi", categories "cf", listed "vs"]).difference
    (.unionAll [listed "wspace", listed "pcm", codePoints "FFF9-FFFB 13430-1343F"])

/-- What the notation of patterns and programs uses; it never stands in an identifier. -/
def notational : CharSet := (listed "patsyn").union (listed "patws")

def identifierStart : CharSet :=
  ((categories "lu ll lt lm lo nl").union (listed "oids")).difference notational

def identifierContinue : CharSet :=
  (CharSet.unionAll
    [identifierStart, categories "mn mc nd pc", listed "oidc"]).difference notational

/-- Characters that no identifier has once it is decomposed. -/
def undecomposed : CharSet := codePoints "37A 309B-309C FC5E-FC63 FDFA-FDFB FE70-FE7E/2"

def undecomposedStart : CharSet := undecomposed.union (codePoints "E33 EB3 FF9E-FF9F")

def wordCharacters : CharSet :=
  .unionAll [alphabetic, categories "mn mc me nd pc", listed "joinc"]

def property? (name : Text) : Option CharSet :=
  if name ∈ words "alpha alphabetic" then some alphabetic
  else if name ∈ words "lower lowercase" then some lowercase
  else if name ∈ words "upper uppercase" then some uppercase
  else if name ∈ words "cased" then some cased
  else if name ∈ words "math" then some mathematical
  else if name ∈ words "grext graphemeextend" then some graphemeExtend
  else if name ∈ words "grbase graphemebase" then some graphemeBase
  else if name ∈ words "ci caseignorable" then some caseIgnorable
  else if name ∈ words "di defaultignorablecodepoint" then some defaultIgnorable
  else if name ∈ words "ids idstart" then some identifierStart
  else if name ∈ words "idc idcontinue" then some identifierContinue
  else if name ∈ words "xids xidstart" then some (identifierStart.difference undecomposedStart)
  else if name ∈ words "xidc xidcontinue" then some (identifierContinue.difference undecomposed)
  else Table.find? propertyTable name

end Highlight.Unicode
