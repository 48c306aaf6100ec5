import RelPipe.Calendar.Stamp
import RelPipe.Document.Value
import RelPipe.Text.Base64
import RelPipe.Text.Quoted

/-!
Two printed forms of values. `text` is the form for readers, which writes strings as they are
between quotes. `description` names the kind of every value and escapes strings.
-/

namespace RelPipe

set_option autoImplicit false

open Number

def commaSeparated (items : List String) : String := Text.join ", " items

/-- Surrounds comma-separated items with braces, with a space inside unless there are none. -/
def braced (items : List String) : String :=
  if items.isEmpty then "\x7b\x7d" else "\x7b " ++ commaSeparated items ++ " \x7d"

namespace Value

mutual

def text : Value → String
  | .null => "null"
  | .undefined => "undefined"
  | .minKey => "MinKey"
  | .maxKey => "MaxKey"
  | .boolean b => if b then "true" else "false"
  | .int32 n => Text.Numeral.ofInt n.toInt
  | .int64 n => Text.Numeral.ofInt n.toInt
  | .double x => x.text
  | .decimal d => d.text
  | .string s => "\"" ++ s ++ "\""
  | .symbol s => "Symbol(\"" ++ s ++ "\")"
  | .code s => s
  | .scopedCode s _ => s
  | .date millis => "DateTime(\"" ++ Calendar.stamp millis.toInt ++ "\")"
  | .timestamp time increment =>
    "Timestamp(" ++ Text.Numeral.ofNat time.toNat ++ ", " ++ Text.Numeral.ofNat increment.toNat
      ++ ")"
  | .objectId id => "ObjectId(\"" ++ id.text ++ "\")"
  | .pointer collection id => "DbPointer(" ++ collection ++ ", " ++ id.text ++ ")"
  | .binary subtype bytes =>
    "Binary(0x" ++ String.ofList (Text.Hex.ofNat subtype.toNat) ++ ", "
      ++ String.ofList (Text.Base64.ofBytes bytes) ++ ")"
  | .regex pattern options => "/" ++ pattern ++ "/" ++ options
  | .array items => "[" ++ commaSeparated (itemTexts items) ++ "]"
  | .document fields => braced (fieldTexts fields)
termination_by structural v => v

def itemTexts : List Value → List String
  | [] => []
  | v :: rest => text v :: itemTexts rest
termination_by structural vs => vs

def fieldTexts : List (String × Value) → List String
  | [] => []
  | (name, v) :: rest => ("\"" ++ name ++ "\": " ++ text v) :: fieldTexts rest
termination_by structural fields => fields

end

def subtypeName (subtype : UInt8) : String :=
  match subtype.toNat with
  | 0 => "Generic"
  | 1 => "Function"
  | 2 => "BinaryOld"
  | 3 => "UuidOld"
  | 4 => "Uuid"
  | 5 => "Md5"
  | 6 => "Encrypted"
  | 7 => "Column"
  | 8 => "Sensitive"
  | 9 => "Vector"
  | n =>
    (if 128 ≤ n then "UserDefined(" else "Reserved(") ++ Text.Numeral.ofNat n ++ ")"

def bytesDescription (bytes : List UInt8) : String :=
  "[" ++ commaSeparated (bytes.map fun b => Text.Numeral.ofNat b.toNat) ++ "]"

def dateDescription (millis : Int64) : String :=
  "DateTime(" ++ Calendar.stamp millis.toInt ++ ")"

def decimalDescription (d : Decimal128) : String :=
  "Decimal128(" ++ String.ofList (Text.Hex.ofBytes d.bytes) ++ ")"

def timestampDescription (time increment : UInt32) : String :=
  "Timestamp " ++ braced ["time: " ++ Text.Numeral.ofNat time.toNat,
    "increment: " ++ Text.Numeral.ofNat increment.toNat]

mutual

def description : Value → String
  | .null => "Null"
  | .undefined => "Undefined"
  | .minKey => "MinKey"
  | .maxKey => "MaxKey"
  | .boolean b => "Boolean(" ++ (if b then "true" else "false") ++ ")"
  | .int32 n => "Int32(" ++ Text.Numeral.ofInt n.toInt ++ ")"
  | .int64 n => "Int64(" ++ Text.Numeral.ofInt n.toInt ++ ")"
  | .double x => "Double(" ++ x.literal ++ ")"
  | .decimal d => decimalDescription d
  | .string s => "String(" ++ Text.Quoted.string s ++ ")"
  | .symbol s => "Symbol(" ++ Text.Quoted.string s ++ ")"
  | .code s => "JavaScriptCode(" ++ Text.Quoted.string s ++ ")"
  | .scopedCode s scope =>
    "JavaScriptCodeWithScope " ++ braced ["code: " ++ Text.Quoted.string s,
      "scope: Document(\x7b" ++ commaSeparated (fieldDescriptions scope) ++ "\x7d)"]
  | .date millis => dateDescription millis
  | .timestamp time increment => timestampDescription time increment
  | .objectId id => "ObjectId(\"" ++ id.text ++ "\")"
  | .pointer collection id =>
    "DbPointer " ++ braced ["namespace: " ++ Text.Quoted.string collection,
      "id: ObjectId(\"" ++ id.text ++ "\")"]
  | .binary subtype bytes =>
    "Binary " ++ braced ["subtype: " ++ subtypeName subtype, "bytes: " ++ bytesDescription bytes]
  | .regex pattern options =>
    "Regex " ++ braced ["pattern: " ++ Text.Quoted.string pattern,
      "options: " ++ Text.Quoted.string options]
  | .array items => "Array([" ++ commaSeparated (itemDescriptions items) ++ "])"
  | .document fields => "Document(\x7b" ++ commaSeparated (fieldDescriptions fields) ++ "\x7d)"
termination_by structural v => v

def itemDescriptions : List Value → List String
  | [] => []
  | v :: rest => description v :: itemDescriptions rest
termination_by structural vs => vs

def fieldDescriptions : List (String × Value) → List String
  | [] => []
  | (name, v) :: rest =>
    (Text.Quoted.string name ++ ": " ++ description v) :: fieldDescriptions rest
termination_by structural fields => fields

end

end Value

namespace Document

def text (d : Document) : String := (Value.document d).text

def description (d : Document) : String := (Value.document d).description

end Document

end RelPipe
