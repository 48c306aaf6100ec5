import RelPipe.Compile.Operand

/-!
Filters of documents. A filter is native when it compares a field with constants; anything else is
a computed expression. `toDocument` writes a filter as the body of a matching stage, and
`toExpression` says the same as a computed expression.
-/

namespace RelPipe

set_option autoImplicit false

inductive Filter where
  | computed (value : Value)
  | comparison (field : String) (op : BinaryOp) (value : Value)
  | range (field : String) (low high : Value)
  | among (field : String) (values : List Value)
  | group (op : GroupOp) (clauses : List Filter)
  | negation (clause : Filter)

namespace Filter

mutual

def toDocument : Filter → Document
  | computed value => [("$expr", value)]
  | comparison field .equal value => [(field, value)]
  | comparison field op value => [(field, .single op.operator value)]
  | range field low high => [(field, .document [("$gte", low), ("$lte", high)])]
  | among field values => [(field, .single "$in" (.array values))]
  | group op clauses => [(op.operator, .array (toDocuments clauses))]
  | negation clause => [("$nor", .array [.document (toDocument clause)])]
termination_by structural f => f

def toDocuments : List Filter → List Value
  | [] => []
  | f :: rest => .document (toDocument f) :: toDocuments rest
termination_by structural fs => fs

end

/-- A comparison of a field with a constant, guarded if it is an inequality. -/
def fieldExpression (field : String) (op : BinaryOp) (value : Value) : Value :=
  let path := Value.string ("$" ++ field)
  let plain := Value.apply op.operator [path, value.quoted]
  if op.isInequality then .apply "$and" [plain, path.present] else plain

mutual

def toExpression : Filter → Value
  | computed value => value
  | comparison field op value => fieldExpression field op value
  | range field low high =>
    .apply "$and" [fieldExpression field .greaterOrEqual low,
      fieldExpression field .lessOrEqual high]
  | among field values =>
    .apply "$in" [.string ("$" ++ field), .array (values.map Value.quoted)]
  | group op clauses => .apply op.operator (toExpressions clauses)
  | negation clause => .apply "$not" [.apply "$or" [toExpression clause]]
termination_by structural f => f

def toExpressions : List Filter → List Value
  | [] => []
  | f :: rest => toExpression f :: toExpressions rest
termination_by structural fs => fs

end

/-- The native form of a comparison of a field with a constant, mirrored when the constant comes
first. -/
def ofComparison? (op : BinaryOp) (left right : Operand) : Option Filter :=
  match left.fieldName?, right.constant? with
  | some field, some value => some (.comparison field op value)
  | _, _ =>
    match right.fieldName?, left.constant? with
    | some field, some value => some (.comparison field op.mirrored value)
    | _, _ => none

def ofComparison (op : BinaryOp) (left right : Operand) : Filter :=
  (ofComparison? op left right).getD (.computed (RelPipe.comparison op left right))

def ofRange (test low high : Operand) : Filter :=
  match test.fieldName?, low.constant?, high.constant? with
  | some field, some low, some high => .range field low high
  | _, _, _ => .computed (rangeComparison test low high)

def ofMembership (left : Operand) (candidates : List Operand) : Filter :=
  match left.fieldName? with
  | some field =>
    if candidates.all Operand.isConstant then
      .among field (candidates.filterMap Operand.constant?)
    else
      .computed (.apply "$in" [left.render, .array (candidates.map Operand.render)])
  | none => .computed (.apply "$in" [left.render, .array (candidates.map Operand.render)])

end Filter

namespace Value

mutual

def mentionsVariable : Value → Bool
  | .string s => Text.doubleDollar s
  | .document fields => fieldsMentionVariable fields
  | .array items => itemsMentionVariable items
  | _ => false
termination_by structural v => v

def itemsMentionVariable : List Value → Bool
  | [] => false
  | v :: rest => mentionsVariable v || itemsMentionVariable rest
termination_by structural vs => vs

def fieldsMentionVariable : List (String × Value) → Bool
  | [] => false
  | (_, v) :: rest => mentionsVariable v || fieldsMentionVariable rest
termination_by structural fields => fields

end

end Value

namespace Filter

def needsExpression : Filter → Bool
  | computed _ => true
  | f => Value.fieldsMentionVariable f.toDocument

/-- A group is native only if every clause is. -/
def ofGroup? (op : GroupOp) (clauses : List Filter) : Option Filter :=
  if clauses.isEmpty then none
  else if clauses.any needsExpression then
    some (.computed (.apply op.operator (toExpressions clauses)))
  else
    some (.group op clauses)

end Filter

end RelPipe
