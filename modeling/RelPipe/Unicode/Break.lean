import RelPipe.Unicode.Binary

/-!
The classes by which text is divided into user-perceived characters, words and sentences.
-/

namespace RelPipe.Unicode

set_option autoImplicit false

def hangulSyllables : CharSet := ⟨[0xac00, 0xd7a4]⟩

/-- The syllables of Hangul without a final consonant, which are every 28th of them. -/
def openSyllables : CharSet := .ofPoints ((List.range 399).map fun i => 0xac00 + 28 * i)

def graphemeBreak? (name : List Char) : Option CharSet :=
  match String.ofList name with
  | "ex" | "extend" => some (graphemeExtend.union (properties "emod"))
  | "lv" => some openSyllables
  | "lvt" => some (hangulSyllables.difference openSyllables)
  | _ => graphemeBreakTable.find? name

def wordBreak? (name : List Char) : Option CharSet :=
  match String.ofList name with
  | "extend" => some ((graphemeExtend.union (categories "mc")).union (properties "emod"))
  | _ => wordBreakTable.find? name

def sentenceExtend : CharSet :=
  (graphemeExtend.union (categories "mc")).union (.single (Char.ofNat 0x200d))

/-- Lower-case letters; those of Georgian do not count. -/
def sentenceLower : CharSet :=
  (lowercase.difference graphemeExtend).difference ⟨[0x10d0, 0x10fb, 0x10fd, 0x1100]⟩

/-- Upper-case and title-case letters; those of Georgian do not count. -/
def sentenceUpper : CharSet :=
  (uppercase.union (categories "lt")).difference ⟨[0x1c90, 0x1cbb, 0x1cbd, 0x1cc0]⟩

/-- The letters without a case, and the Hebrew sign that is used among them. -/
def sentenceLetter : CharSet :=
  (alphabetic.difference ((sentenceLower.union sentenceUpper).union sentenceExtend)).union
    (.single (Char.ofNat 0x5f3))

def sentenceBreak? (name : List Char) : Option CharSet :=
  match String.ofList name with
  | "ex" | "extend" => some sentenceExtend
  | "lo" | "lower" => some sentenceLower
  | "up" | "upper" => some sentenceUpper
  | "le" | "oletter" => some sentenceLetter
  | _ => sentenceBreakTable.find? name

end RelPipe.Unicode
