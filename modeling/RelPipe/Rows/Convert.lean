import RelPipe.Calendar.LooseText
import RelPipe.Document.Printer
import RelPipe.Rows.Cell
import RelPipe.Rows.TimeSpan
import RelPipe.Statement.Basic

/-!
Conversion of document values to cells of a declared type. A value that cannot be read as that type
is converted by its own kind instead, so conversion never fails.
-/

namespace RelPipe.Value

set_option autoImplicit false

open Number Calendar

/-- The range of instants that cells can hold, in seconds. -/
def minInstant : Instant := ⟨-8334601228800, 0⟩

def maxInstant : Instant := ⟨8210266876799, 999999999⟩

/-- An instant in milliseconds, held inside the range of cells. -/
def instantOfMillis (millis : Int64) : Instant :=
  let i := Instant.ofMillis millis.toInt
  if i.seconds < minInstant.seconds then minInstant
  else if maxInstant.seconds < i.seconds then maxInstant
  else i

/-- Numbers, booleans and texts of numbers, as doubles. -/
def asDouble? : Value → Option Binary64
  | .boolean b => some (if b then .one else .zero false)
  | .string s => Binary64.ofText? (Text.trimBlank s)
  | v => v.toBinary64?

def asBool : Value → Bool
  | .boolean b => b
  | .string s => Text.equalIgnoringAsciiCase (Text.trimBlank s) "true".toList
  | v =>
    match v.toBinary64? with
    | some x => !x.isNaN && !x.isZero
    | none => false

/-- Numbers, booleans and texts of integers; numbers with a fraction lose it. -/
def asInt64? : Value → Option Int64
  | .boolean b => some (if b then 1 else 0)
  | .string s => Text.Numeral.int64? (Text.trimBlank s)
  | v => v.toInt64?

/-- As `asInt64?`, except that doubles and decimals outside the 32-bit range become its nearest
end. -/
def asInt32? : Value → Option Int32
  | .double x => some x.toInt32
  | .decimal d => some d.toBinary64.toInt32
  | v => v.asInt64?.map Int64.toInt32

def asDecimal? : Value → Option Decimal128
  | .decimal d => some d
  | v => v.asDouble?.bind fun x => Decimal128.ofText? x.text.toList

/-- The textual form of a value. Strings are taken as they are. -/
def asText : Value → String
  | .string s => s
  | .objectId id => id.text
  | .date millis => (Rfc3339.ofMillis? millis.toInt).getD (stamp millis.toInt)
  | v => v.text

def asInstant? : Value → Option Instant
  | .date millis => some (instantOfMillis millis)
  | .string s => LooseText.instant? s
  | _ => none

def asGuid? : Value → Option Uuid
  | .string s => Uuid.ofText? (Text.trimBlank s)
  | .binary subtype bytes => if subtype = 3 || subtype = 4 then Uuid.ofBytes? bytes else none
  | _ => none

/-- Dates and strings that can be read as an instant give its date; other kinds give the first day
of the first year. -/
def asDate? (v : Value) : Option Date :=
  match v with
  | .date _ | .string _ => v.asInstant?.map fun i => (Moment.ofInstant i).date
  | _ => some ⟨1, 1, 1⟩

/-- Dates and strings that can be read as an instant give its time of day; other kinds give
midnight. -/
def asClock? (v : Value) : Option Clock :=
  match v with
  | .date _ | .string _ => v.asInstant?.map fun i => (Moment.ofInstant i).clock
  | _ => some .midnight

/-- Integers are ticks; what is no span is the empty span. -/
def asTimeSpan : Value → Int
  | .int32 n => TimeSpan.ofTicks n.toInt64
  | .int64 n => TimeSpan.ofTicks n
  | .string s => (TimeSpan.ofText? s).getD 0
  | _ => 0

mutual

/-- Converts a value by its own kind. -/
def toCell : Value → Cell
  | .null | .undefined => .null
  | .boolean b => .boolean b
  | .int32 n => .int32 n
  | .int64 n => .int64 n
  | .double x => .double x
  | .decimal d => .decimal d
  | .string s => .string s
  | .date millis => .dateTime (instantOfMillis millis)
  | .timestamp time increment => .timestamp time increment
  | .objectId id => .string id.text
  | .binary _ bytes => .bytes bytes
  | .document fields => .document fields
  | .array items => .array (toCells items)
  | .minKey => .string (text .minKey)
  | .maxKey => .string (text .maxKey)
  | .symbol s => .string (text (.symbol s))
  | .code s => .string (text (.code s))
  | .scopedCode s scope => .string (text (.scopedCode s scope))
  | .regex pattern options => .string (text (.regex pattern options))
  | .pointer collection id => .string (text (.pointer collection id))
termination_by structural v => v

def toCells : List Value → List Cell
  | [] => []
  | v :: rest => toCell v :: toCells rest
termination_by structural vs => vs

end

def toCellOf? (type : ColumnType) (v : Value) : Option Cell :=
  match type with
  | .unknown => none
  | .boolean => some (.boolean v.asBool)
  | .byte => v.asInt64?.map fun n => .byte (UInt8.ofInt n.toInt)
  | .sbyte => v.asInt64?.map fun n => .sbyte n.toInt8
  | .char => some (.char (v.asText.toList.headD (Char.ofNat 0)))
  | .int16 => v.asInt64?.map fun n => .int16 n.toInt16
  | .uint16 => v.asInt64?.map fun n => .uint16 (UInt16.ofInt n.toInt)
  | .int32 => v.asInt32?.map .int32
  | .uint32 => v.asInt64?.map fun n => .uint32 (UInt32.ofInt n.toInt)
  | .int64 => v.asInt64?.map .int64
  | .uint64 => v.asDouble?.map fun x => .uint64 x.toUInt64
  | .single => v.asDouble?.map fun x => .single (.ofBinary64 x)
  | .double => v.asDouble?.map .double
  | .decimal => v.asDecimal?.map .decimal
  | .string => some (.string v.asText)
  | .dateTime => v.asInstant?.map .dateTime
  | .date => v.asDate?.map .date
  | .time => v.asClock?.map .time
  | .timeSpan => some (.timeSpan v.asTimeSpan)
  | .guid => v.asGuid?.map .guid
  | .byteArray =>
    match v with
    | .binary _ bytes => some (.bytes bytes)
    | _ => some .null

/-- Converts a value to a cell of a declared type, or by its own kind if it cannot be read as that
type. Null and missing values are null cells. -/
def convert (v : Value) (type : ColumnType) : Cell :=
  if v.isAbsent then .null else (v.toCellOf? type).getD v.toCell

end RelPipe.Value
