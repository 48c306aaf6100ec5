import RelPipe.Compile.Expression

/-!
The stage that groups documents. Keys and the inputs of accumulators are compiled for the documents
before grouping.
-/

namespace RelPipe

set_option autoImplicit false

/-- The accumulator of an aggregate. Counting and existence add up ones; the other kinds need an
input. -/
def AggregateKind.accumulator (kind : AggregateKind) (input : Option Value) :
    Except CompileError Value :=
  let ofInput (operator : String) : Except CompileError Value :=
    match input with
    | some input => .ok (.single operator input)
    | none => .error (.missingTarget kind)
  match kind with
  | .count | .exists => .ok (.single "$sum" (.int32 1))
  | .sum => ofInput "$sum"
  | .avg => ofInput "$avg"
  | .min => ofInput "$min"
  | .max => ofInput "$max"
  | .custom name => .error (.unsupportedAggregate name)

namespace Grouping

/-- The value that documents are grouped by. An integer cast groups by the truncated value. -/
def keyValue (site : Site) : Expression → Except CompileError Value
  | .call (.standard .toInt) (e :: _) => (site.value e).map (.single "$trunc")
  | e => site.value e

def keyFields (site : Site) : List GroupKey → Except CompileError (List (String × Value))
  | [] => .ok []
  | key :: rest => do
    let v ← keyValue site key.expression
    let fields ← keyFields site rest
    .ok ((key.name, v) :: fields)

def input (site : Site) : Option Expression → Except CompileError (Option Value)
  | none => .ok none
  | some target => (site.value target).map some

def accumulatorFields (site : Site) :
    List GroupAggregate → Except CompileError (List (String × Value))
  | [] => .ok []
  | a :: rest => do
    let v ← a.aggregate.kind.accumulator (← input site a.aggregate.target)
    let fields ← accumulatorFields site rest
    .ok ((a.name, v) :: fields)

/-- The body of the grouping stage. Without keys there is one group. -/
def stageDocument (site : Site) (g : Grouping) : Except CompileError Document := do
  let keys ← keyFields site g.keys
  let id := if keys.isEmpty then .null else .document (Fields.ofPairs keys)
  let accumulators ← accumulatorFields site g.aggregates
  .ok (("_id", id) :: accumulators)

end Grouping

end RelPipe
