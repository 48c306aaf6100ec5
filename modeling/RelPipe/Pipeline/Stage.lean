import RelPipe.Pipeline.Query

/-!
The stages of pipelines that need no other collection. Each takes the documents so far to the
documents after it.
-/

namespace RelPipe.Pipeline

set_option autoImplicit false

open Number

def filterStage (vars : Variables) (filter : Document) :
    List Document → Result (List Document)
  | [] => .ok []
  | d :: rest => do
    let matched ← satisfies ⟨d, vars⟩ filter
    let kept ← filterStage vars filter rest
    .ok (if matched then d :: kept else kept)

/-! Unwinding -/

/-- One document for each item of the array under a field. Without items, or without a value, the
document is kept without the field or dropped. -/
def unwind (field : String) (keepEmpty : Bool) (d : Document) : List Document :=
  match d.get? field with
  | some (.array (item :: items)) => (item :: items).map fun v => Fields.insert d field v
  | some (.array []) | some .null | none => if keepEmpty then [Fields.erase d field] else []
  | some _ => [d]

def unwindField? (body : Document) : Option String :=
  match body.get? "path" with
  | some (.string path) => (Text.afterStart? ['$'] path.toList).map String.ofList
  | _ => none

def unwindStage (body : Document) (documents : List Document) : Result (List Document) :=
  match unwindField? body with
  | none => .error (.invalidArgument "$unwind" .noFieldPath)
  | some field =>
    .ok (documents.flatMap (unwind field (body.get? "preserveNullAndEmptyArrays" matches
      some (.boolean true))))

/-! Grouping -/

structure Accumulator where
  field : String
  operator : String
  input : Value

/-- The first value that no other is beyond. Nulls do not count. -/
def extreme (beyond : Ordering) (inputs : List Value) : Value :=
  let better (best : Option Value) (v : Value) : Option Value :=
    match best with
    | some b => if v.compare b = beyond then some v else some b
    | none => some v
  ((inputs.filter fun v => !v.isAbsent).foldl better none).getD .null

def sum (inputs : List Value) : Value :=
  let numbers := inputs.filter Value.isNumeric
  if numbers.all Value.isIntegral then
    let total := (numbers.filterMap Value.toInt64?).foldl (· + ·) 0
    ArithmeticOp.narrowed (numbers.all Value.isInt32) total.toInt
  else
    .double (Binary64.sum (numbers.filterMap Value.toBinary64?))

def average (inputs : List Value) : Value :=
  match (inputs.filter Value.isNumeric).filterMap Value.toBinary64? with
  | [] => .null
  | xs => .double ((Binary64.sum xs).div (.ofInt xs.length))

def accumulate (operator : String) (inputs : List Value) : Result Value :=
  match operator with
  | "$sum" => .ok (sum inputs)
  | "$avg" => .ok (average inputs)
  | "$min" => .ok (extreme .lt inputs)
  | "$max" => .ok (extreme .gt inputs)
  | "$first" => .ok ((inputs.head?.map Value.presentOrNull).getD .null)
  | operator => .error (.unsupportedOperator operator)

/-- A group: its key and, for each accumulator, the inputs so far. -/
structure Group where
  key : Value
  inputs : List (List Value)

/-- Adds a document's inputs to the first group with its key, or to a new group at the end. -/
def addToGroup (key : Value) (inputs : List Value) : List Group → List Group
  | [] => [⟨key, inputs.map ([·])⟩]
  | g :: rest =>
    if g.key.compare key = .eq then
      ⟨g.key, List.zipWith (fun slot v => slot ++ [v]) g.inputs inputs⟩ :: rest
    else
      g :: addToGroup key inputs rest

def groupAll (vars : Variables) (key : Value) (accumulators : List Accumulator)
    (groups : List Group) : List Document → Result (List Group)
  | [] => .ok groups
  | d :: rest => do
    let k ← evaluate ⟨d, vars⟩ key
    let inputs ← evaluateEach ⟨d, vars⟩ (accumulators.map Accumulator.input)
    groupAll vars key accumulators (addToGroup k.presentOrNull inputs groups) rest

def accumulateAll : List (Accumulator × List Value) → Result (List (String × Value))
  | [] => .ok []
  | (a, inputs) :: rest => do
    let v ← accumulate a.operator inputs
    let fields ← accumulateAll rest
    .ok ((a.field, v) :: fields)

def groupDocuments (accumulators : List Accumulator) : List Group → Result (List Document)
  | [] => .ok []
  | g :: rest => do
    let fields ← accumulateAll (accumulators.zip g.inputs)
    let documents ← groupDocuments accumulators rest
    .ok ((("_id", g.key) :: fields) :: documents)

def accumulators : List (String × Value) → Result (List Accumulator)
  | [] => .ok []
  | (field, spec) :: rest =>
    if field = "_id" then accumulators rest
    else
      match spec with
      | .document [(operator, input)] => do
        let others ← accumulators rest
        .ok (⟨field, operator, input⟩ :: others)
      | _ => .error (.invalidArgument "$group" (.badAccumulator field))

def groupStage (vars : Variables) (body : Document) (documents : List Document) :
    Result (List Document) := do
  match body.get? "_id" with
  | none => .error (.invalidArgument "$group" .noGroupKey)
  | some key => do
    let accumulators ← accumulators body
    let groups ← groupAll vars key accumulators [] documents
    groupDocuments accumulators groups

/-! Shaping -/

def flag? : Value → Option Bool
  | .boolean b => some b
  | .int32 n => some (n ≠ 0)
  | .int64 n => some (n ≠ 0)
  | .double x => some (!x.isZero)
  | _ => none

def projectFields (env : Environment) : List (String × Value) → Result Document
  | [] => .ok []
  | (field, spec) :: rest => do
    let value ←
      match flag? spec with
      | some true => .ok (env.document.path? field)
      | some false => .ok none
      | none => do
        let v ← evaluate env spec
        .ok (if v.isMissing then none else some v)
    let fields ← projectFields env rest
    .ok (match value with
      | some v => (field, v) :: fields
      | none => fields)

/-- Fields are kept, dropped or computed. Unless a projection mentions it, the identity is kept. -/
def project (vars : Variables) (body : Document) (d : Document) : Result Document := do
  let fields ← projectFields ⟨d, vars⟩ body
  if body.contains "_id" then .ok fields
  else
    match d.get? "_id" with
    | some id => .ok (("_id", id) :: fields)
    | none => .ok fields

/-- Adds the fields whose values are not missing. All are computed on the document as it was. -/
def addFields (vars : Variables) (body : Document) (d : Document) : Result Document := do
  let fields ← evaluateFields ⟨d, vars⟩ body
  .ok (Fields.insertAll d fields)

/-- Applies a function to each document; the first that fails ends the stage. -/
def eachDocument (f : Document → Result Document) : List Document → Result (List Document)
  | [] => .ok []
  | d :: rest => do
    let d ← f d
    let ds ← eachDocument f rest
    .ok (d :: ds)

/-! Sorting -/

/-- A field to sort by and whether larger values come first. -/
structure SortField where
  path : String
  descending : Bool

def sortFields (body : Document) : List SortField :=
  body.map fun (path, direction) =>
    ⟨path, direction.toBinary64?.elim false fun x => x.isNegative && !x.isZero && !x.isNaN⟩

/-- Compares two documents by one field. A missing field counts as null. -/
def SortField.compare (f : SortField) (a b : Document) : Ordering :=
  let order := ((a.path? f.path).getD .null).compare ((b.path? f.path).getD .null)
  if f.descending then order.swap else order

/-- Compares two documents by the first field in which they differ. -/
def compareBy (fields : List SortField) (a b : Document) : Ordering :=
  match fields with
  | [] => .eq
  | f :: rest => (f.compare a b).then (compareBy rest a b)

/-- Inserts an element into a list in descending order, before all elements that it is not less
than. -/
def insertDescending {α : Type} (order : α → α → Ordering) (a : α) : List α → List α
  | [] => [a]
  | b :: rest => if order a b = .lt then b :: insertDescending order a rest else a :: b :: rest

/-- Sorts by insertion. Elements that compare equal keep their order. -/
def sortBy {α : Type} (order : α → α → Ordering) (items : List α) : List α :=
  (items.foldl (fun sorted a => insertDescending order a sorted) []).reverse

def sortStage (body : Document) (documents : List Document) : List Document :=
  sortBy (compareBy (sortFields body)) documents

def countOf (operator : String) (body : Value) : Result Nat :=
  match body.index? with
  | some n => .ok n
  | none => .error (.invalidArgument operator .negativeNumber)

end RelPipe.Pipeline
