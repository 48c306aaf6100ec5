import RelPipe.Number.Binary64
import RelPipe.Statement.Function
import RelPipe.Uuid

/-!
Relational SELECT statements: operators, constants, and the mutually recursive trees of
expressions, joins and statements. An aggregate with a statement of its own is a scalar subquery;
one without is taken over the groups of the statement it stands in.
-/

namespace RelPipe

set_option autoImplicit false

inductive UnaryOp where
  | not | minus | plus | bitwiseNot | isNull
deriving DecidableEq

inductive BinaryOp where
  | add | subtract | multiply | divide | modulo
  | bitwiseAnd | bitwiseOr | bitwiseXor
  | equal | notEqual | less | lessOrEqual | greater | greaterOrEqual
  | like
deriving DecidableEq

namespace BinaryOp

def isComparison : BinaryOp → Bool
  | equal | notEqual | less | lessOrEqual | greater | greaterOrEqual => true
  | _ => false

def isInequality : BinaryOp → Bool
  | less | lessOrEqual | greater | greaterOrEqual => true
  | _ => false

/-- The operator that gives the same answer with its operands swapped. -/
def mirrored : BinaryOp → BinaryOp
  | less => greater
  | lessOrEqual => greaterOrEqual
  | greater => less
  | greaterOrEqual => lessOrEqual
  | op => op

/-- The inequality that holds exactly when this one fails, for operands that are both present. -/
def complement? : BinaryOp → Option BinaryOp
  | less => some greaterOrEqual
  | lessOrEqual => some greater
  | greater => some lessOrEqual
  | greaterOrEqual => some less
  | _ => none

end BinaryOp

inductive GroupOp where
  | and | or
deriving DecidableEq

inductive JoinKind where
  | inner | left
deriving DecidableEq

inductive SortDirection where
  | ascending | descending
deriving DecidableEq

inductive AggregateKind where
  | count | sum | avg | min | max | exists
  | custom (name : String)
deriving DecidableEq

inductive ColumnType where
  | unknown | boolean | byte | sbyte | char | int16 | uint16 | int32 | uint32 | int64 | uint64
  | single | double | decimal | string | dateTime | date | time | timeSpan | guid | byteArray
deriving DecidableEq

namespace ColumnType

def isTextual : ColumnType → Bool
  | string | unknown => true
  | _ => false

def isIntegral : ColumnType → Bool
  | byte | sbyte | int16 | uint16 | int32 | uint32 | int64 | uint64 => true
  | _ => false

def all : List ColumnType :=
  [unknown, boolean, byte, sbyte, char, int16, uint16, int32, uint32, int64, uint64, single, double,
   decimal, string, dateTime, date, time, timeSpan, guid, byteArray]

end ColumnType

/-- Literal values. A decimal is kept as the text it was written as. -/
inductive Constant where
  | null
  | boolean (b : Bool)
  | int32 (n : Int32)
  | int64 (n : Int64)
  | double (x : Number.Binary64)
  | decimal (text : String)
  | string (s : String)
  | dateTime (millis : Int64)
  | guid (id : Uuid)
  | bytes (bytes : List UInt8)
deriving DecidableEq

def Constant.columnType : Constant → ColumnType
  | .null => .unknown
  | .boolean _ => .boolean
  | .int32 _ => .int32
  | .int64 _ => .int64
  | .double _ => .double
  | .decimal _ => .decimal
  | .string _ => .string
  | .dateTime _ => .dateTime
  | .guid _ => .guid
  | .bytes _ => .byteArray

structure ColumnRef where
  qualifier : Option String
  name : String
  columnType : ColumnType
deriving DecidableEq

mutual

inductive Expression where
  | column (ref : ColumnRef)
  | property (name : String)
  | constant (value : Constant)
  | unary (op : UnaryOp) (operand : Expression)
  | binary (op : BinaryOp) (left right : Expression)
  | between (test low high : Expression)
  | member (left : Expression) (candidates : List Expression)
  | group (op : GroupOp) (operands : List Expression)
  | call (function : Function) (arguments : List Expression)
  | aggregate (ref : Aggregate)

structure Aggregate where
  kind : AggregateKind
  target : Option Expression
  statement : Option Statement

structure OutputColumn where
  expression : Expression
  aliasName : Option String

structure SortKey where
  expression : Expression
  direction : SortDirection

structure JoinNode where
  table : String
  aliasName : Option String
  kind : JoinKind
  condition : Option Expression
  joins : List JoinNode

structure Statement where
  table : String
  aliasName : Option String
  operands : List OutputColumn
  condition : Option Expression
  joins : List JoinNode
  groupBy : List Expression
  having : Option Expression
  sorts : List SortKey
  skip : Option UInt64
  limit : Option UInt64

end

/-- The direct parts of an expression. The statement of a subquery is not one of them. -/
def Expression.children : Expression → List Expression
  | .column _ | .property _ | .constant _ => []
  | .unary _ operand => [operand]
  | .binary _ left right => [left, right]
  | .between test low high => [test, low, high]
  | .member left candidates => left :: candidates
  | .group _ operands => operands
  | .call _ arguments => arguments
  | .aggregate ref => ref.target.toList

mutual

def JoinNode.subtree : JoinNode → List JoinNode
  | ⟨table, aliasName, kind, condition, joins⟩ =>
    ⟨table, aliasName, kind, condition, joins⟩ :: JoinNode.preorder joins
termination_by structural node => node

/-- The nodes of a forest of joins, each before those below it. -/
def JoinNode.preorder : List JoinNode → List JoinNode
  | [] => []
  | node :: rest => JoinNode.subtree node ++ JoinNode.preorder rest
termination_by structural nodes => nodes

end

namespace Statement

def empty : Statement := ⟨"", none, [], none, [], [], none, [], none, none⟩

def joinNodes (s : Statement) : List JoinNode := JoinNode.preorder s.joins

/-- The expressions of a statement in the order of their evaluation: operands, condition, group
keys, group condition, sort keys. Join conditions are not among them. -/
def expressions (s : Statement) : List Expression :=
  s.operands.map (·.expression) ++ s.condition.toList ++ s.groupBy ++ s.having.toList
    ++ s.sorts.map (·.expression)

end Statement

end RelPipe
