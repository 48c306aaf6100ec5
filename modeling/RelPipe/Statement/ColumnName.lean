import RelPipe.Text.Basic

/-!
Column names as callers spell them carry type suffixes and association markers. `normalize` brings
them to dotted paths; `sanitize` makes a name usable as a single field name.
-/

namespace RelPipe.ColumnName

set_option autoImplicit false

/-- Turns each escaped association marker into a dot. -/
def joinEscapedMarkers : List Char → List Char
  | '!' :: '\\' :: '.' :: cs => '.' :: joinEscapedMarkers cs
  | c :: cs => c :: joinEscapedMarkers cs
  | [] => []

def joinMarkers : List Char → List Char
  | '!' :: '.' :: cs => '.' :: joinMarkers cs
  | c :: cs => c :: joinMarkers cs
  | [] => []

/-- Normalizes the characters of a column name: what follows a comma is dropped, association
markers become dots, backslashes vanish and dots at the ends are trimmed. -/
def normalizeChars (cs : List Char) : List Char :=
  Text.trimBoth (· == '.')
    ((joinMarkers (joinEscapedMarkers (Text.before ',' cs))).filter (· ≠ '\\'))

def normalize (name : String) : String := String.ofList (normalizeChars name.toList)

/-- Replaces the characters that would read as a path separator or an operator. -/
def sanitize (name : String) : String :=
  String.ofList (name.toList.map fun c => if c = '.' || c = '$' then '_' else c)

example : normalize "Cust!.Name,5" = "Cust.Name" ∧ normalize ".a!\\.b\\." = "a.b" := by decide

end RelPipe.ColumnName
