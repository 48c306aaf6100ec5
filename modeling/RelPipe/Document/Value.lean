import RelPipe.Document.Fields
import RelPipe.Number.Decimal128
import RelPipe.Text.Basic
import RelPipe.Uuid

/-!
The values that documents hold. `undefined` doubles as the result of reading a field that is not
there.
-/

namespace RelPipe

set_option autoImplicit false

open Number

/-- The twelve bytes that identify a stored document. -/
structure ObjectId where
  value : BitVec 96
deriving DecidableEq

namespace ObjectId

def text (id : ObjectId) : String := String.ofList (Text.Hex.padded 24 id.value.toNat)

def ofText? (cs : List Char) : Option ObjectId :=
  if cs.length = 24 then (Text.Hex.natural? cs).map fun n => ⟨BitVec.ofNat 96 n⟩ else none

end ObjectId

inductive Value where
  | null
  | undefined
  | minKey
  | maxKey
  | boolean (b : Bool)
  | int32 (n : Int32)
  | int64 (n : Int64)
  | double (x : Binary64)
  | decimal (d : Decimal128)
  | string (s : String)
  | symbol (s : String)
  | code (s : String)
  | scopedCode (s : String) (scope : List (String × Value))
  | date (millis : Int64)
  | timestamp (time increment : UInt32)
  | objectId (id : ObjectId)
  /-- A document of another collection, by its identity. -/
  | pointer (collection : String) (id : ObjectId)
  | binary (subtype : UInt8) (bytes : List UInt8)
  | regex (pattern options : String)
  | array (items : List Value)
  | document (fields : List (String × Value))
deriving Inhabited

abbrev Document := Fields Value

namespace Value

/-- The value `{ name: value }`. -/
def single (name : String) (value : Value) : Value := .document [(name, value)]

/-- The value `{ name: [items] }`, which is how operators are applied. -/
def apply (name : String) (items : List Value) : Value := single name (.array items)

def isNumeric : Value → Bool
  | .int32 _ | .int64 _ | .double _ | .decimal _ => true
  | _ => false

def isIntegral : Value → Bool
  | .int32 _ | .int64 _ => true
  | _ => false

def isInt32 : Value → Bool
  | .int32 _ => true
  | _ => false

def isMissing : Value → Bool
  | .undefined => true
  | _ => false

def isAbsent : Value → Bool
  | .null | .undefined => true
  | _ => false

def toBinary64? : Value → Option Binary64
  | .int32 n => some (.ofInt n.toInt)
  | .int64 n => some (.ofInt n.toInt)
  | .double x => some x
  | .decimal d => some d.toBinary64
  | _ => none

def toInt64? : Value → Option Int64
  | .int32 n => some n.toInt64
  | .int64 n => some n
  | v => v.toBinary64?.map Binary64.toInt64

/-- `false`, null, missing and zero are falsy; everything else is truthy. -/
def isTruthy : Value → Bool
  | .boolean b => b
  | .null | .undefined => false
  | v =>
    match v.toBinary64? with
    | some x => !x.isZero
    | none => true

def presentOrNull : Value → Value
  | .undefined => .null
  | v => v

end Value

/-- The value at the end of a path of names through nested documents. -/
def Document.at? : Document → List String → Option Value
  | _, [] => none
  | d, [name] => Fields.get? d name
  | d, name :: rest =>
    match Fields.get? d name with
    | some (.document nested) => Document.at? nested rest
    | _ => none

def pathSegments (path : String) : List String :=
  (Text.pieces '.' path.toList).map String.ofList

def Document.path? (d : Document) (path : String) : Option Value := d.at? (pathSegments path)

end RelPipe
