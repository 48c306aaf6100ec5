import RelPipe.Compile.GroupStage
import RelPipe.Compile.OuterColumn
import RelPipe.Compile.Predicate
import RelPipe.Plan

/-!
Planning a statement: its joins and subqueries become lookups, and each lookup carries a pipeline
of its own that is planned the same way. Columns of enclosing statements reach a nested pipeline as
variables.
-/

namespace RelPipe

set_option autoImplicit false

/-- What a statement was compiled with. Subqueries have contexts of their own. -/
structure Context where
  collection : String
  scope : Scope
  grouping : Grouping
  outputNames : List String
  subqueries : List (String × Context)

/-- A pipeline in the making: where names lead so far, the stages, and the contexts of the
subqueries planned on the way. -/
structure Planning where
  scope : Scope
  plan : Plan
  subqueries : List (String × Context)

def lookupDocument (collection field : String) (correlations : Correlations) (pipeline : Plan) :
    Document :=
  [("from", .string collection), ("as", .string field)]
    ++ (if correlations.isEmpty then [] else [("let", .document correlations.toDocument)])
    ++ [("pipeline", .array (pipeline.pipeline.map .document))]

def unwindDocument (field : String) (keepEmpty : Bool) : Document :=
  [("path", .string ("$" ++ field)), ("preserveNullAndEmptyArrays", .boolean keepEmpty)]

def JoinNode.fieldName (table : String) (aliasName : Option String) (stageCount : Nat) : String :=
  match aliasName.filter (· ≠ "") with
  | some name => name
  | none => if table = "" then "j" ++ Text.Numeral.ofNat stageCount else table

namespace Planning

def start (table : String) (root : String) (correlations : Correlations) : Planning :=
  ⟨.rooted root correlations, .on table, []⟩

def add (p : Planning) (kind : StageKind) (body : Document) : Planning :=
  { p with plan := p.plan.add kind (.document body) }

def site (p : Planning) (caseSensitive : Bool) : Site := ⟨p.scope, .empty, caseSensitive⟩

def filter (p : Planning) (site : Site) : Option Expression → Except CompileError Planning
  | none => .ok p
  | some condition => do
    let body ← site.filterDocument condition
    .ok (p.add .filter body)

/-- The stages from the condition of a statement to the condition on its groups. -/
def narrow (p : Planning) (caseSensitive : Bool) (s : Statement) :
    Except CompileError (Planning × Grouping) := do
  let site := p.site caseSensitive
  let grouping := Grouping.ofStatement s
  let p ← p.filter site s.condition
  let p ←
    if grouping.isEmpty then .ok p
    else do
      let body ← grouping.stageDocument site
      .ok (p.add .group body)
  let p ← p.filter { site with grouping := grouping } s.having
  .ok (p, grouping)

/-- The variables for the columns that a join condition takes from the documents joined so far. -/
def joinCorrelations (p : Planning) (field : String) (condition : Option Expression) :
    Correlations :=
  let columns := (condition.toList.flatMap (·.outerColumns []))
  columns.foldl (fun cs ref =>
    match ref.qualifier with
    | none => cs
    | some qualifier =>
      if CaselessMap.sameName qualifier field || !p.scope.aliases.contains qualifier then cs
      else cs.bind qualifier ref.name (.string (p.scope.columnPath ref))) []

/-- The variables for the columns that a subquery takes from the statements around it. -/
def subqueryCorrelations (p : Planning) (a : Aggregate) : Correlations :=
  (a.outerColumns []).foldl (fun cs ref =>
    match ref.qualifier with
    | none => cs
    | some qualifier => cs.bind qualifier ref.name (.string (p.scope.columnPath ref))) []

def attachJoin (p : Planning) (table field : String) (kind : JoinKind) (inner : Planning) :
    Planning :=
  let p := p.add .lookup (lookupDocument table field inner.scope.correlations inner.plan)
  let p := p.add .unwind (unwindDocument field (kind ≠ .inner))
  { p with
    scope := p.scope.registerAlias field field
    subqueries := inner.subqueries }

def reduce (p : Planning) (site : Site) (a : Aggregate) : Except CompileError Planning := do
  let target := a.target.or (a.statement.bind fun s => s.operands.head?.map (·.expression))
  let input ←
    match target with
    | some target => site.value target
    | none => .ok (.int32 1)
  let accumulator ← a.kind.accumulator (some input)
  let result :=
    match a.kind with
    | .exists => Value.apply "$gt" [.string "$agg", .int32 0]
    | _ => .string "$agg"
  .ok ((p.add .group [("_id", .null), ("agg", accumulator)]).add .project [("value", result)])

def emptyResult : AggregateKind → Value
  | .count => .int32 0
  | .exists => .boolean false
  | _ => .null

def attachSubquery (p : Planning) (field : String) (a : Aggregate) (inner : Planning)
    (grouping : Grouping) : Planning :=
  let p := p.add .lookup
    (lookupDocument inner.plan.collection field inner.scope.correlations inner.plan)
  let p := p.add .unwind (unwindDocument field true)
  let p := p.add .addFields
    [(field, .apply "$ifNull" [.string ("$" ++ field ++ ".value"), emptyResult a.kind])]
  let context : Context := ⟨inner.plan.collection, inner.scope, grouping, [], inner.subqueries⟩
  { p with
    scope := p.scope.registerSubquery a.signature field
    subqueries := p.subqueries ++ [(field, context)] }

def nextField (p : Planning) : String := "SubAgg" ++ Text.Numeral.ofNat p.scope.subqueries.length

end Planning

mutual

/-- Plans the subqueries of an expression, from left to right. -/
def Expression.plan (caseSensitive : Bool) : Expression → Planning → Except CompileError Planning
  | .column _, p | .property _, p | .constant _, p => .ok p
  | .unary _ e, p => e.plan caseSensitive p
  | .binary _ l r, p => do
    let p ← l.plan caseSensitive p
    r.plan caseSensitive p
  | .between t l h, p => do
    let p ← t.plan caseSensitive p
    let p ← l.plan caseSensitive p
    h.plan caseSensitive p
  | .member l cs, p => do
    let p ← l.plan caseSensitive p
    Expression.planAll caseSensitive cs p
  | .group _ es, p => Expression.planAll caseSensitive es p
  | .call _ es, p => Expression.planAll caseSensitive es p
  | .aggregate a, p => a.plan caseSensitive p
termination_by structural e => e

def Expression.planAll (caseSensitive : Bool) :
    List Expression → Planning → Except CompileError Planning
  | [], p => .ok p
  | e :: rest, p => do
    let p ← e.plan caseSensitive p
    Expression.planAll caseSensitive rest p
termination_by structural es => es

def Expression.planOption (caseSensitive : Bool) :
    Option Expression → Planning → Except CompileError Planning
  | none, p => .ok p
  | some e, p => e.plan caseSensitive p
termination_by structural e => e

/-- Plans a subquery, unless one of the same signature is planned already. -/
def Aggregate.plan (caseSensitive : Bool) : Aggregate → Planning → Except CompileError Planning
  | ⟨_, target, none⟩, p => Expression.planOption caseSensitive target p
  | ⟨kind, target, some s⟩, p =>
    let a : Aggregate := ⟨kind, target, some s⟩
    if (p.scope.subqueryField? a.signature).isSome then .ok p
    else
      match kind with
      | .custom name => .error (.unsupportedAggregate name)
      | _ => do
        let (inner, grouping) ← s.planSource caseSensitive (p.subqueryCorrelations a)
        let inner ← inner.reduce ⟨inner.scope, grouping, caseSensitive⟩ a
        .ok (p.attachSubquery p.nextField a inner grouping)
termination_by structural a => a

def OutputColumn.planAll (caseSensitive : Bool) :
    List OutputColumn → Planning → Except CompileError Planning
  | [], p => .ok p
  | ⟨e, _⟩ :: rest, p => do
    let p ← e.plan caseSensitive p
    OutputColumn.planAll caseSensitive rest p
termination_by structural os => os

def SortKey.planAll (caseSensitive : Bool) :
    List SortKey → Planning → Except CompileError Planning
  | [], p => .ok p
  | ⟨e, _⟩ :: rest, p => do
    let p ← e.plan caseSensitive p
    SortKey.planAll caseSensitive rest p
termination_by structural ks => ks

/-- Plans joins and, after each, the joins below it. The subqueries of a join condition run within
the joined collection. -/
def JoinNode.planAll (caseSensitive : Bool) :
    List JoinNode → Planning → Except CompileError Planning
  | [], p => .ok p
  | ⟨table, aliasName, kind, condition, joins⟩ :: rest, p => do
    let field := JoinNode.fieldName table aliasName p.plan.stages.length
    let inner : Planning :=
      { Planning.start table field (p.joinCorrelations field condition) with
        subqueries := p.subqueries }
    let inner ← Expression.planOption caseSensitive condition inner
    let inner ← inner.filter (inner.site caseSensitive) condition
    let p ← JoinNode.planAll caseSensitive joins (p.attachJoin table field kind inner)
    JoinNode.planAll caseSensitive rest p
termination_by structural ns => ns

/-- Plans a statement up to the condition on its groups, given the variables of its pipeline. -/
def Statement.planSource (caseSensitive : Bool) :
    Statement → Correlations → Except CompileError (Planning × Grouping)
  | ⟨table, aliasName, operands, condition, joins, groupBy, having, sorts, skip, limit⟩,
    correlations => do
    let p ← JoinNode.planAll caseSensitive joins
      (Planning.start table (aliasName.getD "") correlations)
    let p ← OutputColumn.planAll caseSensitive operands p
    let p ← Expression.planOption caseSensitive condition p
    let p ← Expression.planAll caseSensitive groupBy p
    let p ← Expression.planOption caseSensitive having p
    let p ← SortKey.planAll caseSensitive sorts p
    p.narrow caseSensitive
      ⟨table, aliasName, operands, condition, joins, groupBy, having, sorts, skip, limit⟩
termination_by structural s => s

end

end RelPipe
