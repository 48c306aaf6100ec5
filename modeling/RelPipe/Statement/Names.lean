import RelPipe.Statement.Basic

/-!
The written names of operators, kinds and types.
-/

namespace RelPipe

set_option autoImplicit false

namespace UnaryOp

def name : UnaryOp → String
  | not => "Not"
  | minus => "Minus"
  | plus => "Plus"
  | bitwiseNot => "BitwiseNot"
  | isNull => "IsNull"

def all : List UnaryOp := [not, minus, plus, bitwiseNot, isNull]

def ofName? (s : String) : Option UnaryOp := all.find? fun op => op.name == s

end UnaryOp

namespace BinaryOp

def name : BinaryOp → String
  | add => "Add"
  | subtract => "Subtract"
  | multiply => "Multiply"
  | divide => "Divide"
  | modulo => "Modulo"
  | bitwiseAnd => "BitwiseAnd"
  | bitwiseOr => "BitwiseOr"
  | bitwiseXor => "BitwiseXor"
  | equal => "Equal"
  | notEqual => "NotEqual"
  | less => "Less"
  | lessOrEqual => "LessOrEqual"
  | greater => "Greater"
  | greaterOrEqual => "GreaterOrEqual"
  | like => "Like"

def all : List BinaryOp :=
  [add, subtract, multiply, divide, modulo, bitwiseAnd, bitwiseOr, bitwiseXor, equal, notEqual,
   less,
   lessOrEqual, greater, greaterOrEqual, like]

def ofName? (s : String) : Option BinaryOp := all.find? fun op => op.name == s

end BinaryOp

namespace GroupOp

def name : GroupOp → String
  | and => "And"
  | or => "Or"

def ofName? (s : String) : Option GroupOp := [and, or].find? fun op => op.name == s

end GroupOp

namespace JoinKind

def name : JoinKind → String
  | inner => "Inner"
  | left => "Left"

def ofName? (s : String) : Option JoinKind := [inner, left].find? fun kind => kind.name == s

end JoinKind

namespace SortDirection

def name : SortDirection → String
  | ascending => "Ascending"
  | descending => "Descending"

def ofName? (s : String) : Option SortDirection :=
  [ascending, descending].find? fun direction => direction.name == s

end SortDirection

namespace AggregateKind

def name : AggregateKind → String
  | count => "Count"
  | sum => "Sum"
  | avg => "Avg"
  | min => "Min"
  | max => "Max"
  | .exists => "Exists"
  | custom _ => "Custom"

def ofName? (s : String) : Option AggregateKind :=
  [count, sum, avg, min, max, .exists].find? fun kind => kind.name == s

end AggregateKind

namespace ColumnType

def name : ColumnType → String
  | unknown => "Unknown"
  | boolean => "Boolean"
  | byte => "Byte"
  | sbyte => "SByte"
  | char => "Char"
  | int16 => "Int16"
  | uint16 => "UInt16"
  | int32 => "Int32"
  | uint32 => "UInt32"
  | int64 => "Int64"
  | uint64 => "UInt64"
  | single => "Single"
  | double => "Double"
  | decimal => "Decimal"
  | string => "String"
  | dateTime => "DateTime"
  | date => "Date"
  | time => "Time"
  | timeSpan => "TimeSpan"
  | guid => "Guid"
  | byteArray => "ByteArray"

def ofName? (s : String) : Option ColumnType := all.find? fun type => type.name == s

end ColumnType

end RelPipe
