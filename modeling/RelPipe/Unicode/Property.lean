import RelPipe.Unicode.AgeTable
import RelPipe.Unicode.Break
import RelPipe.Unicode.ScriptTable

/-!
Character sets by the names of properties. Names are compared without regard to letter case, to
blanks, hyphens and underscores, and to a leading `is`.
-/

namespace RelPipe.Unicode

set_option autoImplicit false

def afterIs? (name : List Char) : Option (List Char) :=
  match name with
  | i :: s :: rest => if i.toLower = 'i' && s.toLower = 's' then some rest else none
  | _ => none

def significant (name : List Char) : List Char :=
  (name.filter fun c => c.toNat < 0x80 && c ≠ ' ' && c ≠ '_' && c ≠ '-').map Char.toLower

/-- The form in which names are compared. The short name `isc` does not lose its `is`, since it
would be mistaken for another. -/
def normalize (name : List Char) : List Char :=
  match afterIs? name with
  | some rest => if significant rest = ['c'] then "isc".toList else significant rest
  | none => significant name

def script? (name : List Char) : Option CharSet := scriptTable.find? name

def scriptUse? (name : List Char) : Option CharSet :=
  match scriptUseTable.find? name with
  | some s => some s
  | none => script? name

/-- The set of a name that stands alone: a binary property, a category or a script. Three names of
categories are also names of properties that are not sets. -/
def set? (name : List Char) : Option CharSet :=
  let name := normalize name
  match binary? name with
  | some s => some s
  | none =>
    match category? name with
    | some s => some s
    | none => script? name

def setOfValue? (property value : List Char) : Option CharSet :=
  let value := normalize value
  match String.ofList (normalize property) with
  | "gc" | "generalcategory" => category? value
  | "sc" | "script" => script? value
  | "scx" | "scriptextensions" => scriptUse? value
  | "age" => ageTable.unionUpTo? value
  | "gcb" | "graphemeclusterbreak" => graphemeBreak? value
  | "wb" | "wordbreak" => wordBreak? value
  | "sb" | "sentencebreak" => sentenceBreak? value
  | _ => none

def word : CharSet :=
  (alphabetic.union (categories "mn mc me nd pc")).union (properties "joinc")

def digit : CharSet := categories "nd"

def space : CharSet := properties "space"

end RelPipe.Unicode
