import RelPipe.Calendar.Rfc3339
import RelPipe.Json.Decode
import RelPipe.Statement.Names

/-!
Reading statements and expressions from JSON values.
-/

namespace RelPipe

set_option autoImplicit false

open Json

def ColumnRef.ofJson? (j : Json) : Option ColumnRef := do
  let [qualifier, name, columnType] ← record? ["alias", "name", "column_type"] j | none
  return {
    qualifier := ← optional? none (nullable? string?) qualifier
    name := ← required? string? name
    columnType := ← optional? .unknown (fun j => unit? j >>= ColumnType.ofName?) columnType }

def Constant.ofJson? : Json → Option Constant
  | .object [(name, content)] =>
    match name with
    | "Boolean" => content.bool?.map .boolean
    | "Int32" => (content.integerIn? (-0x80000000) 0x7fffffff).map fun n => .int32 (.ofInt n)
    | "Int64" =>
      (content.integerIn? (-0x8000000000000000) 0x7fffffffffffffff).map fun n => .int64 (.ofInt n)
    | "Double" => content.double?.map .double
    | "Decimal" => content.string?.map .decimal
    | "String" => content.string?.map .string
    | "DateTime" => do
      let s ← content.string?
      let millis ← Calendar.Rfc3339.millis? s.toList
      return .dateTime (.ofInt millis)
    | "Guid" => do
      let s ← content.string?
      let id ← Uuid.ofText? s.toList
      return .guid id
    | "Bytes" =>
      (content.list? fun j => (j.integerIn? 0 255).map fun n => UInt8.ofNat n.toNat).map .bytes
    | "Null" =>
      match content with
      | .null => some .null
      | _ => none
    | _ => none
  | .string "Null" => some .null
  | _ => none

def Function.ofJson? : Json → Option Function
  | .object [("Custom", content)] => content.string?.map .custom
  | j => (unit? j >>= StandardFunction.ofExactName?).map .standard

def AggregateKind.ofJson? : Json → Option AggregateKind
  | .object [("Custom", content)] => content.string?.map .custom
  | j => unit? j >>= AggregateKind.ofName?

def count? (j : Json) : Option UInt64 :=
  (j.integerIn? 0 0xffffffffffffffff).map fun n => .ofNat n.toNat

mutual

/-- Reads an expression whose JSON value is nested less than `fuel` deep. -/
def Expression.decode? : (fuel : Nat) → Json → Option Expression
  | 0, _ => none
  | fuel + 1, .object [(name, content)] =>
    let expression? := Expression.decode? fuel
    match name with
    | "Column" => (ColumnRef.ofJson? content).map .column
    | "Property" => content.string?.map .property
    | "Constant" => (Constant.ofJson? content).map .constant
    | "Unary" => do
      let [op, operand] ← record? ["op", "operand"] content | none
      return .unary (← required? (fun j => unit? j >>= UnaryOp.ofName?) op)
        (← required? expression? operand)
    | "Binary" => do
      let [op, left, right] ← record? ["op", "left", "right"] content | none
      return .binary (← required? (fun j => unit? j >>= BinaryOp.ofName?) op)
        (← required? expression? left) (← required? expression? right)
    | "Between" => do
      let [test, low, high] ← record? ["test", "begin", "end"] content | none
      return .between (← required? expression? test) (← required? expression? low)
        (← required? expression? high)
    | "In" => do
      let [left, candidates] ← record? ["left", "candidates"] content | none
      return .member (← required? expression? left) (← required? (list? expression?) candidates)
    | "Group" => do
      let [op, operands] ← record? ["op", "operands"] content | none
      return .group (← required? (fun j => unit? j >>= GroupOp.ofName?) op)
        (← required? (list? expression?) operands)
    | "Function" => do
      let [function, arguments] ← record? ["function", "arguments"] content | none
      return .call (← required? Function.ofJson? function)
        (← optional? [] (list? expression?) arguments)
    | "Aggregate" => do
      let [kind, target, statement] ← record? ["kind", "target", "statement"] content | none
      return .aggregate {
        kind := ← required? AggregateKind.ofJson? kind
        target := ← optional? none (nullable? expression?) target
        statement := ← optional? none (nullable? (Statement.decode? fuel)) statement }
    | _ => none
  | _, _ => none

def OutputColumn.decode? : (fuel : Nat) → Json → Option OutputColumn
  | 0, _ => none
  | fuel + 1, j => do
    let [expression, aliasName] ← record? ["expression", "alias"] j | none
    return {
      expression := ← required? (Expression.decode? fuel) expression
      aliasName := ← optional? none (nullable? string?) aliasName }

def SortKey.decode? : (fuel : Nat) → Json → Option SortKey
  | 0, _ => none
  | fuel + 1, j => do
    let [expression, direction] ← record? ["expression", "direction"] j | none
    return {
      expression := ← required? (Expression.decode? fuel) expression
      direction := ← optional? .ascending (fun j => unit? j >>= SortDirection.ofName?) direction }

def JoinNode.decode? : (fuel : Nat) → Json → Option JoinNode
  | 0, _ => none
  | fuel + 1, j => do
    let [table, aliasName, kind, condition, joins] ←
      record? ["table", "alias", "kind", "condition", "joins"] j | none
    return {
      table := ← optional? "" string? table
      aliasName := ← optional? none (nullable? string?) aliasName
      kind := ← optional? .inner (fun j => unit? j >>= JoinKind.ofName?) kind
      condition := ← optional? none (nullable? (Expression.decode? fuel)) condition
      joins := ← optional? [] (list? (JoinNode.decode? fuel)) joins }

def Statement.decode? : (fuel : Nat) → Json → Option Statement
  | 0, _ => none
  | fuel + 1, j => do
    let [table, aliasName, operands, condition, joins, groupBy, having, sorts, skip, limit] ←
      record? ["table", "alias", "operands", "condition", "joins", "group_by", "having", "sorts",
        "skip", "limit"] j | none
    return {
      table := ← optional? "" string? table
      aliasName := ← optional? none (nullable? string?) aliasName
      operands := ← optional? [] (list? (OutputColumn.decode? fuel)) operands
      condition := ← optional? none (nullable? (Expression.decode? fuel)) condition
      joins := ← optional? [] (list? (JoinNode.decode? fuel)) joins
      groupBy := ← optional? [] (list? (Expression.decode? fuel)) groupBy
      having := ← optional? none (nullable? (Expression.decode? fuel)) having
      sorts := ← optional? [] (list? (SortKey.decode? fuel)) sorts
      skip := ← optional? none (nullable? count?) skip
      limit := ← optional? none (nullable? count?) limit }

end

def Expression.ofJson? (j : Json) : Option Expression := Expression.decode? (j.depth + 1) j

/-- The statement that a JSON value stands for. Every field that is missing takes its default. -/
def Statement.ofJson? (j : Json) : Option Statement := Statement.decode? (j.depth + 1) j

end RelPipe
