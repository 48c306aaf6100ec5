import RelPipe.Unicode.BinaryTable
import RelPipe.Unicode.BreakTable
import RelPipe.Unicode.Category

/-!
Binary properties of characters. Those that follow from categories and other properties are defined
by the rules of the standard, all others are listed.
-/

namespace RelPipe.Unicode

set_option autoImplicit false

/-- The union of properties, whose names are separated by blanks. -/
def properties (names : String) : CharSet := binaryTable.unionOf names

def lowercase : CharSet := (categories "ll").union (properties "olower")

def uppercase : CharSet := (categories "lu").union (properties "oupper")

def cased : CharSet := (lowercase.union uppercase).union (categories "lt")

def alphabetic : CharSet := (cased.union (categories "lm lo nl")).union (properties "oalpha")

def caseIgnorable : CharSet :=
  (categories "mn me cf lm sk").union (wordBreakTable.unionOf "ml mb sq")

def graphemeExtend : CharSet := (categories "mn me").union (properties "ogrext")

def graphemeBase : CharSet :=
  ((categories "cc cf co zl zp").union (unassigned.union graphemeExtend)).complement

def patternReserved : CharSet := properties "patsyn patws"

def idStart : CharSet :=
  ((categories "lu ll lt lm lo nl").union (properties "oids")).difference patternReserved

def idContinue : CharSet :=
  (idStart.union ((categories "mn mc nd pc").union (properties "oidc"))).difference patternReserved

/-- The letters that start an identifier only until they are decomposed. -/
def decomposedStart : CharSet :=
  .ofDistances "37a 1 ab8 1 7f 1 21e7 2 cbc1 6 196 2 74 1 1 1 1 1 1 1 1 1 1 1 1 1 1 1 11f 2"

/-- The letters that continue an identifier only until they are decomposed. -/
def decomposedContinue : CharSet :=
  .ofDistances "37a 1 2d20 2 cbc1 6 196 2 74 1 1 1 1 1 1 1 1 1 1 1 1 1 1 1"

def shownFormat : CharSet :=
  (CharSet.ofDistances "fff9 3 3434 10").union (properties "pcm space")

def defaultIgnorable : CharSet :=
  ((categories "cf").union (properties "odi vs")).difference shownFormat

def derived? (name : List Char) : Option CharSet :=
  match String.ofList name with
  | "lower" | "lowercase" => some lowercase
  | "upper" | "uppercase" => some uppercase
  | "cased" => some cased
  | "alpha" | "alphabetic" => some alphabetic
  | "ci" | "caseignorable" => some caseIgnorable
  | "grext" | "graphemeextend" => some graphemeExtend
  | "grbase" | "graphemebase" => some graphemeBase
  | "ids" | "idstart" => some idStart
  | "idc" | "idcontinue" => some idContinue
  | "xids" | "xidstart" => some (idStart.difference decomposedStart)
  | "xidc" | "xidcontinue" => some (idContinue.difference decomposedContinue)
  | "di" | "defaultignorablecodepoint" => some defaultIgnorable
  | "math" => some ((categories "sm").union (properties "omath"))
  | "cwcm" | "changeswhencasemapped" => some (properties "cwl cwu cwt")
  | _ => none

def binary? (name : List Char) : Option CharSet :=
  match derived? name with
  | some s => some s
  | none => binaryTable.find? name

end RelPipe.Unicode
