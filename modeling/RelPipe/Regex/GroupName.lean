import RelPipe.Unicode.Property

/-!
The names of groups: a letter or an underscore, then letters, digits, underscores, dots and square
brackets. Letters and numerals are those of Unicode 17.
-/

namespace RelPipe.Regex.GroupName

set_option autoImplicit false

/-- The letters that are new in version 17. -/
def newLetters : CharSet :=
  ⟨[0x88f, 0x890, 0xc5c, 0xc5d, 0xcdc, 0xcdd, 0xa7ce, 0xa7d0, 0xa7d2, 0xa7d3, 0xa7d4, 0xa7d5,
    0xa7f1, 0xa7f2, 0x10940, 0x1095a, 0x10ec5, 0x10ec8, 0x10efa, 0x10efc, 0x11b60, 0x11b68,
    0x11db0, 0x11ddc, 0x16ea0, 0x16eb9, 0x16ebb, 0x16ed4, 0x16ff2, 0x16ff7, 0x187f8, 0x18800,
    0x18d09, 0x18d1f, 0x18d80, 0x18df3, 0x1e6c0, 0x1e6df, 0x1e6e0, 0x1e6f6, 0x1e6fe, 0x1e700,
    0x2b73a, 0x2b740, 0x2cea2, 0x2ceae, 0x323b0, 0x3347a]⟩

/-- The numerals that are new in version 17. -/
def newNumerals : CharSet := ⟨[0x11de0, 0x11dea, 0x16ff4, 0x16ff7]⟩

def letters : CharSet := Unicode.alphabetic.union newLetters

def numerals : CharSet := (Unicode.categories "nd nl no").union newNumerals

def isStart (c : Char) : Bool := c = '_' || letters.contains c

def isCharacter (c : Char) : Bool :=
  c = '_' || c = '.' || c = '[' || c = ']' || letters.contains c || numerals.contains c

/-- The name at the beginning of a text, up to the angle that closes it, and what follows. -/
def read? (cs : List Char) : Option (List Char × List Char) :=
  match Text.cutAt? '>' cs with
  | some (first :: name, rest) =>
    if isStart first && name.all isCharacter then some (first :: name, rest) else none
  | _ => none

end RelPipe.Regex.GroupName
