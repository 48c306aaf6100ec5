import RelPipe.Calendar.Rfc3339
import RelPipe.Json.Basic
import RelPipe.Statement.Names

/-!
Writing statements and expressions as JSON values, with every field present. Only instants in the
years from 0 to 9999 can be written.
-/

namespace RelPipe

set_option autoImplicit false

namespace Json

def ofOption (s : Option String) : Json :=
  match s with
  | none => .null
  | some s => .string s

def tagged (name : String) (content : Json) : Json := .object [(name, content)]

end Json

open Json

def ColumnRef.toJson (c : ColumnRef) : Json :=
  .object [("alias", ofOption c.qualifier), ("name", .string c.name),
    ("column_type", .string c.columnType.name)]

def Constant.toJson? : Constant → Option Json
  | .null => some (.string "Null")
  | .boolean b => some (tagged "Boolean" (.bool b))
  | .int32 n => some (tagged "Int32" (.integer n.toInt))
  | .int64 n => some (tagged "Int64" (.integer n.toInt))
  | .double x => some (tagged "Double" (.float x))
  | .decimal s => some (tagged "Decimal" (.string s))
  | .string s => some (tagged "String" (.string s))
  | .dateTime millis =>
    (Calendar.Rfc3339.ofMillis? millis.toInt).map fun s => tagged "DateTime" (.string s)
  | .guid id => some (tagged "Guid" (.string id.text))
  | .bytes content => some (tagged "Bytes" (.array (content.map fun b => .integer b.toNat)))

def Function.toJson : Function → Json
  | .standard f => .string f.name
  | .custom tag => tagged "Custom" (.string tag)

def AggregateKind.toJson : AggregateKind → Json
  | .custom name => tagged "Custom" (.string name)
  | kind => .string kind.name

def countJson : Option UInt64 → Json
  | none => .null
  | some n => .integer n.toNat

mutual

def Expression.toJson? : Expression → Option Json
  | .column c => some (tagged "Column" c.toJson)
  | .property name => some (tagged "Property" (.string name))
  | .constant c => c.toJson?.map (tagged "Constant")
  | .unary op operand => do
    let operand ← operand.toJson?
    return tagged "Unary" (.object [("op", .string op.name), ("operand", operand)])
  | .binary op left right => do
    let left ← left.toJson?
    let right ← right.toJson?
    return tagged "Binary" (.object [("op", .string op.name), ("left", left), ("right", right)])
  | .between test low high => do
    let test ← test.toJson?
    let low ← low.toJson?
    let high ← high.toJson?
    return tagged "Between" (.object [("test", test), ("begin", low), ("end", high)])
  | .member left candidates => do
    let left ← left.toJson?
    let candidates ← Expression.allToJson? candidates
    return tagged "In" (.object [("left", left), ("candidates", .array candidates)])
  | .group op operands => do
    let operands ← Expression.allToJson? operands
    return tagged "Group" (.object [("op", .string op.name), ("operands", .array operands)])
  | .call function arguments => do
    let arguments ← Expression.allToJson? arguments
    return tagged "Function"
      (.object [("function", function.toJson), ("arguments", .array arguments)])
  | .aggregate ref => ref.toJson?.map (tagged "Aggregate")
termination_by structural e => e

def Expression.allToJson? : List Expression → Option (List Json)
  | [] => some []
  | e :: rest => do
    let j ← e.toJson?
    let js ← Expression.allToJson? rest
    return j :: js
termination_by structural es => es

def Expression.optionToJson? : Option Expression → Option Json
  | none => some .null
  | some e => e.toJson?
termination_by structural e => e

def Aggregate.toJson? : Aggregate → Option Json
  | ⟨kind, target, statement⟩ => do
    let target ← Expression.optionToJson? target
    let statement ← Statement.optionToJson? statement
    return .object [("kind", kind.toJson), ("target", target), ("statement", statement)]
termination_by structural a => a

def OutputColumn.toJson? : OutputColumn → Option Json
  | ⟨e, name⟩ => do
    let e ← e.toJson?
    return .object [("expression", e), ("alias", ofOption name)]
termination_by structural o => o

def OutputColumn.allToJson? : List OutputColumn → Option (List Json)
  | [] => some []
  | o :: rest => do
    let j ← o.toJson?
    let js ← OutputColumn.allToJson? rest
    return j :: js
termination_by structural os => os

def SortKey.toJson? : SortKey → Option Json
  | ⟨e, direction⟩ => do
    let e ← e.toJson?
    return .object [("expression", e), ("direction", .string direction.name)]
termination_by structural k => k

def SortKey.allToJson? : List SortKey → Option (List Json)
  | [] => some []
  | k :: rest => do
    let j ← k.toJson?
    let js ← SortKey.allToJson? rest
    return j :: js
termination_by structural ks => ks

def JoinNode.toJson? : JoinNode → Option Json
  | ⟨table, name, kind, condition, joins⟩ => do
    let condition ← Expression.optionToJson? condition
    let joins ← JoinNode.allToJson? joins
    return .object [("table", .string table), ("alias", ofOption name),
      ("kind", .string kind.name), ("condition", condition), ("joins", .array joins)]
termination_by structural n => n

def JoinNode.allToJson? : List JoinNode → Option (List Json)
  | [] => some []
  | n :: rest => do
    let j ← n.toJson?
    let js ← JoinNode.allToJson? rest
    return j :: js
termination_by structural ns => ns

def Statement.toJson? : Statement → Option Json
  | ⟨table, name, operands, condition, joins, groupBy, having, sorts, skip, limit⟩ => do
    let operands ← OutputColumn.allToJson? operands
    let condition ← Expression.optionToJson? condition
    let joins ← JoinNode.allToJson? joins
    let groupBy ← Expression.allToJson? groupBy
    let having ← Expression.optionToJson? having
    let sorts ← SortKey.allToJson? sorts
    return .object [("table", .string table), ("alias", ofOption name),
      ("operands", .array operands), ("condition", condition), ("joins", .array joins),
      ("group_by", .array groupBy), ("having", having), ("sorts", .array sorts),
      ("skip", countJson skip), ("limit", countJson limit)]
termination_by structural s => s

def Statement.optionToJson? : Option Statement → Option Json
  | none => some .null
  | some s => s.toJson?
termination_by structural s => s

end

end RelPipe
