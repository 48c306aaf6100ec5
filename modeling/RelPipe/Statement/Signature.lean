import RelPipe.Statement.ColumnName
import RelPipe.Statement.Equality

/-!
Signatures: equality of expressions by shape. Two expressions have the same signature when they
differ only in the letter case of aliases, property names, tags and table names, or in the spelling
of a column that normalizes to the same path.
-/

namespace RelPipe

set_option autoImplicit false

def foldName (name : String) : String := Text.lower (ColumnName.normalize name)

def Function.folded : Function → Function
  | .custom tag => .custom (Text.lower tag)
  | f => f

def AggregateKind.folded : AggregateKind → AggregateKind
  | .custom name => .custom (Text.lower name)
  | kind => kind

def ColumnRef.folded (c : ColumnRef) : ColumnRef :=
  { qualifier := c.qualifier.map Text.lower, name := foldName c.name, columnType := c.columnType }

mutual

def Expression.normalized : Expression → Expression
  | .column c => .column c.folded
  | .property name => .property (foldName name)
  | .constant c => .constant c
  | .unary op e => .unary op e.normalized
  | .binary op l r => .binary op l.normalized r.normalized
  | .between t l h => .between t.normalized l.normalized h.normalized
  | .member l cs => .member l.normalized (Expression.normalizedAll cs)
  | .group op es => .group op (Expression.normalizedAll es)
  | .call f es => .call f.folded (Expression.normalizedAll es)
  | .aggregate a => .aggregate a.normalized
termination_by structural e => e

def Expression.normalizedAll : List Expression → List Expression
  | [] => []
  | e :: rest => e.normalized :: Expression.normalizedAll rest
termination_by structural es => es

def Expression.normalizedOption : Option Expression → Option Expression
  | none => none
  | some e => some e.normalized
termination_by structural e => e

def Aggregate.normalized : Aggregate → Aggregate
  | ⟨kind, target, statement⟩ =>
    ⟨kind.folded, Expression.normalizedOption target, Statement.normalizedOption statement⟩
termination_by structural a => a

def OutputColumn.normalized : OutputColumn → OutputColumn
  | ⟨e, name⟩ => ⟨e.normalized, name.map Text.lower⟩
termination_by structural o => o

def OutputColumn.normalizedAll : List OutputColumn → List OutputColumn
  | [] => []
  | o :: rest => o.normalized :: OutputColumn.normalizedAll rest
termination_by structural os => os

def SortKey.normalized : SortKey → SortKey
  | ⟨e, direction⟩ => ⟨e.normalized, direction⟩
termination_by structural k => k

def SortKey.normalizedAll : List SortKey → List SortKey
  | [] => []
  | k :: rest => k.normalized :: SortKey.normalizedAll rest
termination_by structural ks => ks

def JoinNode.normalized : JoinNode → JoinNode
  | ⟨table, name, kind, condition, joins⟩ =>
    ⟨Text.lower table, name.map Text.lower, kind, Expression.normalizedOption condition,
      JoinNode.normalizedAll joins⟩
termination_by structural n => n

def JoinNode.normalizedAll : List JoinNode → List JoinNode
  | [] => []
  | n :: rest => n.normalized :: JoinNode.normalizedAll rest
termination_by structural ns => ns

def Statement.normalized : Statement → Statement
  | ⟨table, name, operands, condition, joins, groupBy, having, sorts, skip, limit⟩ =>
    { table := Text.lower table
      aliasName := name.map Text.lower
      operands := OutputColumn.normalizedAll operands
      condition := Expression.normalizedOption condition
      joins := JoinNode.normalizedAll joins
      groupBy := Expression.normalizedAll groupBy
      having := Expression.normalizedOption having
      sorts := SortKey.normalizedAll sorts
      skip := skip
      limit := limit }
termination_by structural s => s

def Statement.normalizedOption : Option Statement → Option Statement
  | none => none
  | some s => some s.normalized
termination_by structural s => s

end

/-- An expression in normal form, which stands for all expressions of its shape. -/
structure Signature where
  expression : Expression
deriving DecidableEq

def Expression.signature (e : Expression) : Signature := ⟨e.normalized⟩

def Aggregate.signature (a : Aggregate) : Signature := (Expression.aggregate a).signature

end RelPipe
