import RelPipe.Document.Printer
import RelPipe.Rows.Materialize
import RelPipe.Statement.Names

/-!
Rows as text. Texts, instants, dates, times and documents are shown as they are; every other cell
names its type.
-/

namespace RelPipe

set_option autoImplicit false

namespace Cell

def spanDescription (nanos : Int) : String :=
  "TimeDelta " ++ braced ["secs: " ++ Text.Numeral.ofInt (nanos.fdiv (1000000000)),
    "nanos: " ++ Text.Numeral.ofInt (nanos.fmod (1000000000))]

def instantDescription (i : Calendar.Instant) : String :=
  let m := Calendar.Moment.ofInstant i
  m.date.text ++ "T" ++ m.clock.text ++ "Z"

mutual

def description : Cell → String
  | .null => "Null"
  | .boolean b => "Boolean(" ++ (if b then "true" else "false") ++ ")"
  | .byte n => "Byte(" ++ Text.Numeral.ofNat n.toNat ++ ")"
  | .sbyte n => "SByte(" ++ Text.Numeral.ofInt n.toInt ++ ")"
  | .char c => "Char(" ++ Text.Quoted.char c ++ ")"
  | .int16 n => "Int16(" ++ Text.Numeral.ofInt n.toInt ++ ")"
  | .uint16 n => "UInt16(" ++ Text.Numeral.ofNat n.toNat ++ ")"
  | .int32 n => "Int32(" ++ Text.Numeral.ofInt n.toInt ++ ")"
  | .uint32 n => "UInt32(" ++ Text.Numeral.ofNat n.toNat ++ ")"
  | .int64 n => "Int64(" ++ Text.Numeral.ofInt n.toInt ++ ")"
  | .uint64 n => "UInt64(" ++ Text.Numeral.ofNat n.toNat ++ ")"
  | .single x => "Single(" ++ x.literal ++ ")"
  | .double x => "Double(" ++ x.literal ++ ")"
  | .decimal d => "Decimal(" ++ Value.decimalDescription d ++ ")"
  | .string s => "String(" ++ Text.Quoted.string s ++ ")"
  | .dateTime i => "DateTime(" ++ instantDescription i ++ ")"
  | .date d => "Date(" ++ d.text ++ ")"
  | .time t => "Time(" ++ t.text ++ ")"
  | .timeSpan nanos => "TimeSpan(" ++ spanDescription nanos ++ ")"
  | .guid id => "Guid(" ++ id.text ++ ")"
  | .bytes content => "Bytes(" ++ Value.bytesDescription content ++ ")"
  | .document d => "Document(" ++ Document.description d ++ ")"
  | .array items => "Array([" ++ commaSeparated (descriptions items) ++ "])"
  | .timestamp seconds increment =>
    "Timestamp(" ++ Value.timestampDescription seconds increment ++ ")"
termination_by structural c => c

def descriptions : List Cell → List String
  | [] => []
  | c :: rest => description c :: descriptions rest
termination_by structural cs => cs

end

def text : Cell → String
  | .null => "NULL"
  | .string s => s
  | .dateTime i => i.text
  | .date d => d.text
  | .time t => t.text
  | .document d => Document.text d
  | c => c.description

end Cell

def Row.text (row : Row) : String := Text.join " | " (row.map Cell.text)

def ColumnDescriptor.text (c : ColumnDescriptor) : String :=
  c.field ++ " (" ++ c.columnType.name ++ ")"

end RelPipe
