import RelPipe.Text.Basic
import RelPipe.Text.CharSet
import RelPipe.Text.Hex

/-!
Tables of character sets. Each set is written as the hexadecimal distances between its successive
bounds and has one or more names, in lower case and without separators.
-/

namespace RelPipe

set_option autoImplicit false

def Text.partialSums (start : Nat) : List Nat → List Nat
  | [] => []
  | d :: rest => (start + d) :: partialSums (start + d) rest

/-- The set whose bounds lie at the given distances. -/
def CharSet.ofDistances (text : String) : CharSet :=
  ⟨Text.partialSums 0 ((Text.pieces ' ' text.toList).map fun cs => (Text.Hex.natural? cs).getD 0)⟩

namespace Unicode

/-- Names, separated by blanks, and the distances of a set. -/
abbrev Table := List (String × String)

def isNamed (names : String) (name : List Char) : Bool :=
  (Text.pieces ' ' names.toList).contains name

def Table.find? (table : Table) (name : List Char) : Option CharSet :=
  (List.find? (fun entry => isNamed entry.1 name) table).map fun entry =>
    CharSet.ofDistances entry.2

def Table.unionOf (table : Table) (names : String) : CharSet :=
  CharSet.unions ((Text.pieces ' ' names.toList).filterMap table.find?)

/-- The union of the entries up to the one of a name. -/
def Table.unionUpTo? (table : Table) (name : List Char) : Option CharSet :=
  match table.findIdx? fun entry => isNamed entry.1 name with
  | some i =>
    some (CharSet.unions ((table.take (i + 1)).map fun entry => CharSet.ofDistances entry.2))
  | none => none

end Unicode

end RelPipe
