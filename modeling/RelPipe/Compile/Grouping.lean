import RelPipe.Compile.Operand
import RelPipe.Statement.Signature
import RelPipe.Text.Numeral

/-!
The grouping of a statement: its group keys and the aggregates over its groups. Expressions with
the same signature share one entry. After grouping, a document holds the keys under `_id` and each
aggregate under its own name, and nothing else.
-/

namespace RelPipe

set_option autoImplicit false

mutual

/-- The aggregates over the groups of the statement that an expression stands in, from left to
right. -/
def Expression.localAggregates : Expression → List Aggregate
  | .column _ | .property _ | .constant _ => []
  | .unary _ e => e.localAggregates
  | .binary _ l r => l.localAggregates ++ r.localAggregates
  | .between t l h => t.localAggregates ++ l.localAggregates ++ h.localAggregates
  | .member l cs => l.localAggregates ++ Expression.localAggregatesAll cs
  | .group _ es => Expression.localAggregatesAll es
  | .call _ es => Expression.localAggregatesAll es
  | .aggregate ⟨kind, target, none⟩ => [⟨kind, target, none⟩]
  | .aggregate ⟨_, _, some _⟩ => []
termination_by structural e => e

def Expression.localAggregatesAll : List Expression → List Aggregate
  | [] => []
  | e :: rest => e.localAggregates ++ Expression.localAggregatesAll rest
termination_by structural es => es

end

structure GroupKey where
  name : String
  expression : Expression

def GroupKey.signature (k : GroupKey) : Signature := k.expression.signature

structure GroupAggregate where
  name : String
  aggregate : Aggregate

def GroupAggregate.signature (a : GroupAggregate) : Signature := a.aggregate.signature

structure Grouping where
  keys : List GroupKey
  aggregates : List GroupAggregate

namespace Grouping

def empty : Grouping := ⟨[], []⟩

def isEmpty (g : Grouping) : Bool := g.keys.isEmpty && g.aggregates.isEmpty

def columnKeyName? : Expression → Option String
  | .column ref =>
    let name := String.ofList
      ((ColumnName.normalize ref.name).toList.map fun c => if c = '.' || c = '!' then '_' else c)
    if name = "" then none else some name
  | _ => none

def keyName (keys : List GroupKey) (e : Expression) (index : Nat) : String :=
  match columnKeyName? e with
  | some name =>
    if keys.any fun k => k.name = name then "K" ++ Text.Numeral.ofNat index else name
  | none => "K" ++ Text.Numeral.ofNat index

def addKey (keys : List GroupKey) (e : Expression) (index : Nat) : List GroupKey :=
  if keys.any fun k => k.signature = e.signature then keys
  else keys ++ [⟨keyName keys e index, e⟩]

def keysFrom (keys : List GroupKey) (index : Nat) : List Expression → List GroupKey
  | [] => keys
  | e :: rest => keysFrom (addKey keys e index) (index + 1) rest

def addAggregate (aggregates : List GroupAggregate) (a : Aggregate) : List GroupAggregate :=
  if aggregates.any fun b => b.signature = a.signature then aggregates
  else aggregates ++ [⟨"Agg" ++ Text.Numeral.ofNat aggregates.length, a⟩]

/-- The grouping of a statement. Aggregates are looked for in the operands, the group condition and
the sort keys. -/
def ofStatement (s : Statement) : Grouping :=
  let outputs :=
    s.operands.map (·.expression) ++ s.having.toList ++ s.sorts.map (·.expression)
  { keys := keysFrom [] 0 s.groupBy
    aggregates := (outputs.flatMap Expression.localAggregates).foldl addAggregate [] }

def keyName? (g : Grouping) (signature : Signature) : Option String :=
  (g.keys.find? fun k => k.signature = signature).map GroupKey.name

def aggregate? (g : Grouping) (signature : Signature) : Option GroupAggregate :=
  g.aggregates.find? fun a => a.signature = signature

/-- What an expression reads after grouping, if it is a key or an aggregate. Existence is counted.
-/
def operand? (g : Grouping) (e : Expression) : Option Operand :=
  if g.isEmpty then none else
  match e with
  | .constant _ => none
  | e =>
    match g.keyName? e.signature with
    | some name => some (.field ("$_id." ++ name))
    | none =>
      (g.aggregate? e.signature).map fun a =>
        let field := "$" ++ a.name
        match a.aggregate.kind with
        | .exists => .computed (.apply "$gt" [.string field, .int32 0])
        | _ => .field field

@[simp] theorem operand?_empty (e : Expression) : empty.operand? e = none := rfl

def hasEntry (g : Grouping) (e : Expression) : Bool :=
  (g.keyName? e.signature).isSome || (g.aggregate? e.signature).isSome

mutual

/-- Whether an expression can still be computed after grouping: it is a constant, a key or an
aggregate, or built from such. -/
def covers (g : Grouping) (e : Expression) : Bool :=
  match e with
  | .constant _ => true
  | .column ref => hasEntry g (.column ref)
  | .property name => hasEntry g (.property name)
  | .aggregate a => hasEntry g (.aggregate a)
  | .unary op e => hasEntry g (.unary op e) || covers g e
  | .binary op l r => hasEntry g (.binary op l r) || (covers g l && covers g r)
  | .between t l h => hasEntry g (.between t l h) || (covers g t && covers g l && covers g h)
  | .member l cs => hasEntry g (.member l cs) || (covers g l && coversAll g cs)
  | .group op es => hasEntry g (.group op es) || coversAll g es
  | .call f es => hasEntry g (.call f es) || coversAll g es
termination_by structural e

def coversAll (g : Grouping) : List Expression → Bool
  | [] => true
  | e :: rest => covers g e && coversAll g rest
termination_by structural es => es

end

end Grouping

end RelPipe
