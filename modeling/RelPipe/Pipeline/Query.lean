import RelPipe.Pipeline.Expression

/-!
Filters of documents. A filter names fields and conditions on their values; here a missing field
counts as null, and an order test holds only between values of one kind. Within `$expr` a filter is
an expression like any other.
-/

namespace RelPipe.Pipeline

set_option autoImplicit false

/-- Whether a value, if there is one, is equal to a target. A missing value is equal to null. -/
def equals (value : Option Value) (target : Value) : Bool :=
  match value, target with
  | none, .null | some .null, .null => true
  | some v, target => v.equivalent target
  | none, _ => false

def ordered (c : Comparison) (value operand : Value) : Bool :=
  value.rank == operand.rank && c.holds (value.compare operand)

/-- Whether a condition is made of operators rather than a value to be equal to. -/
def isOperatorDocument : Value → Bool
  | .document fields => !fields.isEmpty && fields.all fun field => Text.dollar field.1
  | _ => false

def pattern? : Value → Option String
  | .string s => some s
  | .regex pattern _ => some pattern
  | _ => none

def searchOptions (operators : Document) : Regex.Options :=
  match operators.get? "$options" with
  | some (.string letters) => { caseless := letters.toList.contains 'i' }
  | _ => {}

def operatorMatches (operators : Document) (value : Value) (name : String) (operand : Value) :
    Result Bool :=
  match name with
  | "$eq" => .ok (equals (some value) operand)
  | "$ne" => .ok (!equals (some value) operand)
  | "$gt" => .ok (ordered .gt value operand)
  | "$gte" => .ok (ordered .gte value operand)
  | "$lt" => .ok (ordered .lt value operand)
  | "$lte" => .ok (ordered .lte value operand)
  | "$in" =>
    match operand with
    | .array candidates => .ok (candidates.any fun c => equals (some value) c)
    | _ => .error (.invalidArgument name .notArray)
  | "$nin" =>
    match operand with
    | .array candidates => .ok (!candidates.any fun c => equals (some value) c)
    | _ => .error (.invalidArgument name .notArray)
  | "$exists" => .ok (operand.isTruthy != (value matches .null))
  | "$regex" =>
    match pattern? operand with
    | none => .error (.invalidArgument name .notPattern)
    | some pattern =>
      match Regex.ofPattern? (searchOptions operators) pattern.toList with
      | none => .error .invalidRegex
      | some r =>
        match value with
        | .string s => .ok (r.occursIn s.toList)
        | _ => .ok false
  | "$options" => .ok true
  | name => .error (.unsupportedOperator name)

mutual

def fieldMatches (value : Option Value) : Value → Result Bool
  | .document fields =>
    if isOperatorDocument (.document fields) then operatorsMatch fields (value.getD .null) fields
    else .ok (equals value (.document fields))
  | target => .ok (equals value target)
termination_by structural condition => condition

/-- Whether a value satisfies the operators of a condition. The first that fails ends the test. -/
def operatorsMatch (operators : Document) (value : Value) : List (String × Value) → Result Bool
  | [] => .ok true
  | (name, operand) :: rest => do
    let matched ←
      if name = "$not" then (fieldMatches (some value) operand).map not
      else operatorMatches operators value name operand
    if matched then operatorsMatch operators value rest else .ok false
termination_by structural fields => fields

end

/-- The clauses of a group have to be documents. -/
def isDocument : Value → Bool
  | .document _ => true
  | _ => false

inductive ClauseGroup where
  | all | any | none
deriving DecidableEq

namespace ClauseGroup

def ofName? : String → Option ClauseGroup
  | "$and" => some all
  | "$or" => some any
  | "$nor" => some none
  | _ => Option.none

def holds (group : ClauseGroup) (results : List Bool) : Bool :=
  match group with
  | all => results.all id
  | any => results.any id
  | none => !results.any id

end ClauseGroup

mutual

/-- Whether a document satisfies a filter. The first entry that fails ends the test. -/
def satisfies (env : Environment) : List (String × Value) → Result Bool
  | [] => .ok true
  | (name, condition) :: rest => do
    let matched ← satisfiesEntry env name condition
    if matched then satisfies env rest else .ok false
termination_by structural fields => fields

/-- Whether a document satisfies one entry of a filter: a group of clauses, an expression or a
condition on a field. -/
def satisfiesEntry (env : Environment) (name : String) (condition : Value) : Result Bool :=
  match ClauseGroup.ofName? name with
  | some group =>
    match condition with
    | .array clauses =>
      if clauses.all isDocument then (satisfiesEach env clauses).map group.holds
      else .error (.invalidArgument name .clauseNotDocument)
    | _ => .error (.invalidArgument name .noClauses)
  | none =>
    if name = "$expr" then (evaluate env condition).map Value.isTruthy
    else if Text.dollar name then .error (.unsupportedOperator name)
    else fieldMatches (env.document.path? name) condition
termination_by structural condition

/-- Which clauses a document satisfies. All of them are tested. -/
def satisfiesEach (env : Environment) : List Value → Result (List Bool)
  | [] => .ok []
  | .document fields :: rest => do
    let matched ← satisfies env fields
    let results ← satisfiesEach env rest
    .ok (matched :: results)
  | _ :: rest => satisfiesEach env rest
termination_by structural clauses => clauses

end

end RelPipe.Pipeline
