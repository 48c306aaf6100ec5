import RelPipe.Document.Value
import RelPipe.Statement.Basic

/-!
Compiled operands and the comparisons built from them. An operand remembers whether it is a field,
a constant or anything else, which decides whether it can take part in a native filter and whether
a comparison must guard against its absence.
-/

namespace RelPipe

set_option autoImplicit false

inductive Operand where
  | field (path : String)
  | constant (value : Value)
  | computed (value : Value)

/-- Strings that would read as a path or a variable are protected. -/
def Value.quoted : Value → Value
  | .string s => if Text.dollar s then .single "$literal" (.string s) else .string s
  | v => v

namespace Operand

def isField : Operand → Bool
  | field _ => true
  | _ => false

def isConstant : Operand → Bool
  | constant _ => true
  | _ => false

/-- The dotted name of a field of the document itself. References to variables have none. -/
def fieldName? : Operand → Option String
  | field path =>
    if Text.doubleDollar path then none
    else (Text.afterStart? ['$'] path.toList).map String.ofList
  | _ => none

def constant? : Operand → Option Value
  | constant value => some value
  | _ => none

def render : Operand → Value
  | field path => .string path
  | constant value => value.quoted
  | computed value => value

end Operand

def GroupOp.operator : GroupOp → String
  | and => "$and"
  | or => "$or"

def BinaryOp.operator : BinaryOp → String
  | add => "$add"
  | subtract => "$subtract"
  | multiply => "$multiply"
  | divide => "$divide"
  | modulo => "$mod"
  | bitwiseAnd => "$bitAnd"
  | bitwiseOr => "$bitOr"
  | bitwiseXor => "$bitXor"
  | equal => "$eq"
  | notEqual => "$ne"
  | less => "$lt"
  | lessOrEqual => "$lte"
  | greater => "$gt"
  | greaterOrEqual => "$gte"
  | like => "$regexMatch"

def Value.present (v : Value) : Value := .apply "$gt" [v, .null]

def Value.absent (v : Value) : Value := .apply "$eq" [.apply "$ifNull" [v, .null], .null]

/-- The presence guards of the operands of a comparison: inequalities need one for each field,
since null and missing values are ordered below all others instead of failing. -/
def guards (op : BinaryOp) (left right : Operand) : List Value :=
  if op.isInequality then
    ([left, right].filter Operand.isField).map fun o => o.render.present
  else
    []

def comparison (op : BinaryOp) (left right : Operand) : Value :=
  let plain := Value.apply op.operator [left.render, right.render]
  match guards op left right with
  | [] => plain
  | guards => .apply "$and" (plain :: guards)

def rangeComparison (test low high : Operand) : Value :=
  .apply "$and" [comparison .greaterOrEqual test low, comparison .lessOrEqual test high]

end RelPipe
