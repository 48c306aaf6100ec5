import RelPipe.Statement.Basic

/-!
The types of output columns, derived from the expressions that they show.
-/

namespace RelPipe

set_option autoImplicit false

def ColumnType.averaged (type : ColumnType) : ColumnType :=
  match type with
  | .decimal | .single | .double => type
  | _ => if type.isIntegral then .int32 else .double

def AggregateKind.columnType (kind : AggregateKind) (target : ColumnType) : ColumnType :=
  match kind with
  | .exists => .boolean
  | .count => .int32
  | .avg => target.averaged
  | .custom _ => .unknown
  | .sum | .min | .max => target

/-- The type of the results of a function, where that does not depend on its arguments. -/
def StandardFunction.columnType : StandardFunction → ColumnType
  | toInt | len | getYear | getMonth | getDay | getHour | getMinute | getSecond | getMilliSecond
  | getDayOfWeek | getDayOfYear => .int32
  | toLong => .int64
  | toDouble | toFloat => .double
  | .toDecimal => .decimal
  | _ => .unknown

def Expression.columnType : Expression → ColumnType
  | .column ref => ref.columnType
  | .constant c => c.columnType
  | .aggregate ⟨kind, some target, _⟩ => kind.columnType target.columnType
  | .aggregate ⟨kind, none, _⟩ => kind.columnType .unknown
  | .call (.standard .iif) (_ :: value :: _) => value.columnType
  | .call (.standard f) _ => f.columnType
  | _ => .unknown
termination_by structural e => e

end RelPipe
