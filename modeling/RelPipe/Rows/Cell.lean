import RelPipe.Calendar.Moment
import RelPipe.Document.Value
import RelPipe.Number.Binary32

/-!
The typed cells of result rows.
-/

namespace RelPipe

set_option autoImplicit false

open Number

inductive Cell where
  | null
  | boolean (b : Bool)
  | byte (n : UInt8)
  | sbyte (n : Int8)
  | char (c : Char)
  | int16 (n : Int16)
  | uint16 (n : UInt16)
  | int32 (n : Int32)
  | uint32 (n : UInt32)
  | int64 (n : Int64)
  | uint64 (n : UInt64)
  | single (x : Binary32)
  | double (x : Binary64)
  | decimal (d : Decimal128)
  | string (s : String)
  | dateTime (i : Calendar.Instant)
  | date (d : Calendar.Date)
  | time (t : Calendar.Clock)
  | timeSpan (nanos : Int)
  | guid (id : Uuid)
  | bytes (content : List UInt8)
  | document (d : Document)
  | array (items : List Cell)
  | timestamp (time increment : UInt32)

def Cell.isNull : Cell → Bool
  | .null => true
  | _ => false

abbrev Row := List Cell

end RelPipe
