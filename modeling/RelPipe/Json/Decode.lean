import RelPipe.Json.Basic

/-!
Decoding JSON values into the types of a program. A record is an object with one member per field,
or an array of the fields in order; a choice is the name of an alternative, alone or as the only
member of an object that holds its content.
-/

namespace RelPipe.Json

set_option autoImplicit false

open Number

def string? : Json → Option String
  | .string s => some s
  | _ => none

def bool? : Json → Option Bool
  | .bool b => some b
  | _ => none

def integerIn? (low high : Int) : Json → Option Int
  | .integer n => if low ≤ n ∧ n ≤ high then some n else none
  | _ => none

def double? : Json → Option Binary64
  | .integer n => some (.ofInt n)
  | .float x => some x
  | _ => none

def list? {α : Type} (decode : Json → Option α) : Json → Option (List α)
  | .array items => items.mapM decode
  | _ => none

def nullable? {α : Type} (decode : Json → Option α) : Json → Option (Option α)
  | .null => some none
  | j => (decode j).map some

/-- The only member of a name, if there is at most one. -/
def onlyMember? (members : List (String × Json)) (name : String) : Option (Option Json) :=
  match members.filter fun m => m.1 == name with
  | [] => some none
  | [(_, j)] => some (some j)
  | _ => none

/-- The fields of a record, each with its value if it is given. Members of other names are ignored.
-/
def record? (names : List String) : Json → Option (List (Option Json))
  | .object members => names.mapM (onlyMember? members)
  | .array items =>
    if items.length ≤ names.length then
      some (items.map some ++ List.replicate (names.length - items.length) none)
    else
      none
  | _ => none

def required? {α : Type} (decode : Json → Option α) (field : Option Json) : Option α :=
  field.bind decode

def optional? {α : Type} (default : α) (decode : Json → Option α) : Option Json → Option α
  | none => some default
  | some j => decode j

/-- The name of an alternative without content. -/
def unit? : Json → Option String
  | .string s => some s
  | .object [(s, .null)] => some s
  | _ => none

mutual

/-- Keeps only the last of the members of one name in every object. -/
def lastWins : Json → Json
  | .array items => .array (lastWinsItems items)
  | .object members => .object (Fields.ofPairs (lastWinsMembers members))
  | j => j
termination_by structural j => j

def lastWinsItems : List Json → List Json
  | [] => []
  | j :: rest => lastWins j :: lastWinsItems rest
termination_by structural js => js

def lastWinsMembers : List (String × Json) → List (String × Json)
  | [] => []
  | (name, j) :: rest => (name, lastWins j) :: lastWinsMembers rest
termination_by structural members => members

end

end RelPipe.Json
