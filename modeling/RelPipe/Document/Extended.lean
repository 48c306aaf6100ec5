import RelPipe.Calendar.Rfc3339
import RelPipe.Document.Value
import RelPipe.Json.Decode
import RelPipe.Text.Base64

/-!
Documents written in extended JSON, where an object with a member such as `$oid` or `$date` stands
for a value that JSON has no form of its own for. Integers that are not negative take the narrow
type if they fit; negative ones are always wide.
-/

namespace RelPipe.Extended

set_option autoImplicit false

open Number

def integer? (n : Int) : Option Value :=
  if n < 0 then some (.int64 (.ofInt n))
  else if n < 0x80000000 then some (.int32 (.ofInt n))
  else if n < 0x8000000000000000 then some (.int64 (.ofInt n))
  else none

def exactRecord? (names : List String) (j : Json) : Option (List (Option Json)) :=
  match j with
  | .object members =>
    if members.all fun m => names.contains m.1 then j.record? names else none
  | _ => j.record? names

def wideText? (s : String) : Option Int64 := Text.Numeral.int64? s.toList

def narrowText? (s : String) : Option Int32 :=
  (Text.Numeral.integerIn? (-0x80000000) 0x7fffffff s.toList).map Int32.ofInt

/-- The infinities and NaN are written by name. -/
def doubleText? (s : String) : Option Binary64 := Binary64.ofText? s.toList

def word? (j : Json) : Option UInt32 :=
  (j.integerIn? 0 0xffffffff).map fun n => UInt32.ofNat n.toNat

def byte? (j : Json) : Option UInt8 := (j.integerIn? 0 255).map fun n => UInt8.ofNat n.toNat

def objectId? (j : Json) : Option ObjectId := j.string?.bind fun s => ObjectId.ofText? s.toList

/-- Bytes one by one, or those of a text. -/
def bytes? : Json → Option (List UInt8)
  | .array items => items.mapM byte?
  | .string s => some s.toUTF8.toList
  | _ => none

def pointer? (j : Json) : Option Value := do
  match ← exactRecord? ["$ref", "$id"] j with
  | [some (.string collection), some id] =>
    match ← exactRecord? ["$oid"] id with
    | [some id] => (objectId? id).map (.pointer collection)
    | _ => none
  | _ => none

def binary? (j : Json) : Option Value := do
  match ← exactRecord? ["base64", "subType"] j with
  | [some (.string text), some (.string subtype)] =>
    let bytes ← Text.Base64.bytes? text.toList
    match ← Text.Hex.bytes? subtype.toList with
    | [subtype] => some (.binary subtype bytes)
    | _ => none
  | _ => none

def timestamp? (j : Json) : Option Value := do
  match ← exactRecord? ["t", "i"] j with
  | [some time, some increment] =>
    let time ← word? time
    let increment ← word? increment
    some (.timestamp time increment)
  | _ => none

/-- Options are put into alphabetical order. -/
def regex? (j : Json) : Option Value := do
  match ← exactRecord? ["pattern", "options"] j with
  | [some (.string pattern), some (.string options)] =>
    some (.regex pattern (String.ofList (options.toList.mergeSort fun a b => a ≤ b)))
  | _ => none

/-- An instant as text or by its milliseconds. -/
def date? (j : Json) : Option Value :=
  match j with
  | .string s => (Calendar.Rfc3339.millis? s.toList).map fun ms => .date (.ofInt ms)
  | .integer ms => if ms < 0x8000000000000000 then some (.date (.ofInt ms)) else none
  | _ =>
    match exactRecord? ["$numberLong"] j with
    | some [some (.string s)] => (wideText? s).map .date
    | _ => none

/-- The value of a special member: `none` if the name is not special, `some none` if its content is
malformed. -/
def special? (name : String) (j : Json) : Option (Option Value) :=
  match name with
  | "$oid" => some ((objectId? j).map .objectId)
  | "$symbol" => some (j.string?.map .symbol)
  | "$numberInt" => some (j.string?.bind fun s => (narrowText? s).map .int32)
  | "$numberLong" => some (j.string?.bind fun s => (wideText? s).map .int64)
  | "$numberDouble" => some (j.string?.bind fun s => (doubleText? s).map .double)
  | "$numberDecimal" =>
    some (j.string?.bind fun s => (Decimal128.ofText? s.toList).map .decimal)
  | "$numberDecimalBytes" =>
    some ((bytes? j).bind fun bytes => (Decimal128.ofBytes? bytes).map .decimal)
  | "$dbPointer" => some (pointer? j)
  | "$binary" => some (binary? j)
  | "$uuid" =>
    some (j.string?.bind fun s => (Uuid.ofText? s.toList).map fun id => .binary 4 id.bytes)
  | "$timestamp" => some (timestamp? j)
  | "$regularExpression" => some (regex? j)
  | "$date" => some (date? j)
  | "$minKey" => some ((j.integerIn? 1 1).map fun _ => .minKey)
  | "$maxKey" => some ((j.integerIn? 1 1).map fun _ => .maxKey)
  | "$undefined" => some (if j matches .bool true then some .undefined else none)
  | _ => none

mutual

def value? : Json → Option Value
  | .null => some .null
  | .bool b => some (.boolean b)
  | .integer n => integer? n
  | .float x => some (.double x)
  | .string s => some (.string s)
  | .array items => (values? items).map .array
  | .object members => members? [] members
  | .unreadable => none
termination_by structural j => j

def values? : List Json → Option (List Value)
  | [] => some []
  | j :: rest => do
    let v ← value? j
    let vs ← values? rest
    some (v :: vs)
termination_by structural js => js

/-- The value of an object, given the plain members read so far. A special member must be the last,
and stands for the whole object. -/
def members? (done : Document) : List (String × Json) → Option Value
  | [] => some (.document done)
  | [("$code", .string s), ("$scope", j)] | [("$scope", j), ("$code", .string s)] =>
    match value? j with
    | some (.document scope) => some (.scopedCode s scope)
    | _ => none
  | (name, j) :: rest =>
    if name = "$code" then
      match j, rest with
      | .string s, [] => some (.code s)
      | _, _ => none
    else if name = "$scope" then none
    else
      match special? name j with
      | some v => if rest.isEmpty then v else none
      | none => do
        let v ← value? j
        members? (Fields.insert done name v) rest
termination_by structural members => members

end

def document? (j : Json) : Option Document :=
  match value? j with
  | some (.document fields) => some fields
  | _ => none

end RelPipe.Extended
