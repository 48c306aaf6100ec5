import RelPipe.Document.Fields
import RelPipe.Number.Numeral

/-!
JSON values. Integers that fit 64 bits, signed or unsigned, are kept apart from all other numbers,
and objects keep their members in the order and number in which they are written. A text may be well
formed and still have parts that denote nothing; such a part does no harm where nobody looks at it.
-/

namespace RelPipe

set_option autoImplicit false

inductive Json where
  | null
  | bool (b : Bool)
  | integer (n : Int)
  | float (x : Number.Binary64)
  | string (s : String)
  | array (items : List Json)
  | object (members : List (String × Json))
  /-- A well-formed part without a value: a number too large for a double, a string with half of a
  surrogate pair, an object with such a name, or an array or object nested too deeply. -/
  | unreadable
deriving Inhabited

namespace Json

/-- The last member of a name, which is the one that counts. -/
def lastMember? (members : List (String × Json)) (name : String) : Option Json :=
  Fields.get? members.reverse name

def get? (j : Json) (name : String) : Option Json :=
  match j with
  | .object members => lastMember? members name
  | _ => none

mutual

def depth : Json → Nat
  | .array items => depthOfItems items + 1
  | .object members => depthOfMembers members + 1
  | _ => 0
termination_by structural j => j

def depthOfItems : List Json → Nat
  | [] => 0
  | j :: rest => max (depth j) (depthOfItems rest)
termination_by structural js => js

def depthOfMembers : List (String × Json) → Nat
  | [] => 0
  | (_, j) :: rest => max (depth j) (depthOfMembers rest)
termination_by structural members => members

end

mutual

def isReadable : Json → Bool
  | .array items => areReadable items
  | .object members => membersAreReadable members
  | .unreadable => false
  | _ => true
termination_by structural j => j

def areReadable : List Json → Bool
  | [] => true
  | j :: rest => isReadable j && areReadable rest
termination_by structural js => js

def membersAreReadable : List (String × Json) → Bool
  | [] => true
  | (_, j) :: rest => isReadable j && membersAreReadable rest
termination_by structural members => members

end

end Json

end RelPipe
