import RelPipe.Pipeline.Stage
import RelPipe.Plan

/-!
Catalogs of collections and the pipelines that run on them. A lookup runs a pipeline of its own for
every document, with the variables in force and those that it binds.
-/

namespace RelPipe.Pipeline

set_option autoImplicit false

abbrev Catalog := Fields (List Document)

/-- The documents of a collection; none if there is no such collection. -/
def Catalog.collection (c : Catalog) (name : String) : List Document := (c.get? name).getD []

/-- What a lookup is made of, apart from its pipeline. -/
structure Lookup where
  collection : String
  field : String
  bindings : Document

namespace Lookup

def textField (body : Document) (name : String) : Result String :=
  match body.get? name with
  | some (.string s) => .ok s
  | _ => .error (.invalidArgument "$lookup" (.fieldNotText name))

/-- A pipeline is an array of documents. It may be left out. -/
def checkPipeline (body : Document) : Result Unit :=
  match body.get? "pipeline" with
  | some (.array stages) =>
    if stages.all isDocument then .ok () else .error (.invalidArgument "$lookup" .stageNotDocument)
  | none => .ok ()
  | some _ => .error (.invalidArgument "$lookup" (.fieldNotArray "pipeline"))

def bindingsOf (body : Document) : Result Document :=
  match body.get? "let" with
  | some (.document bindings) => .ok bindings
  | none => .ok []
  | some _ => .error (.invalidArgument "$lookup" (.fieldNotDocument "let"))

def ofDocument (body : Document) : Result Lookup := do
  let collection ← textField body "from"
  let field ← textField body "as"
  checkPipeline body
  let bindings ← bindingsOf body
  .ok ⟨collection, field, bindings⟩

def bind (env : Environment) (inner : Variables) : List (String × Value) → Result Variables
  | [] => .ok inner
  | (name, e) :: rest => do
    let v ← evaluate env e
    bind env (Fields.insert inner name v) rest

def attach (l : Lookup) (vars : Variables) (run : Variables → Result (List Document))
    (d : Document) : Result Document := do
  let inner ← bind ⟨d, vars⟩ vars l.bindings
  let found ← run inner
  .ok (Fields.insert d l.field (.array (found.map .document)))

end Lookup

def bodyDocument (operator : String) : Value → Result Document
  | .document fields => .ok fields
  | _ => .error (.invalidArgument operator .bodyNotDocument)

mutual

/-- Runs one stage, given the document that it is written as. -/
def runStage (catalog : Catalog) (vars : Variables) :
    Value → List Document → Result (List Document)
  | .document [(operator, body)], documents =>
    match StageKind.ofOperator? operator with
    | none => .error (.unsupportedStage operator)
    | some .lookup =>
      match body with
      | .document fields => do
        let l ← Lookup.ofDocument fields
        let start := catalog.collection l.collection
        eachDocument (l.attach vars fun inner => runNested catalog inner fields start)
          documents
      | _ => .error (.invalidArgument operator .bodyNotDocument)
    | some .filter => do
      let filter ← bodyDocument operator body
      filterStage vars filter documents
    | some .unwind => do
      let body ← bodyDocument operator body
      unwindStage body documents
    | some .group => do
      let body ← bodyDocument operator body
      groupStage vars body documents
    | some .project => do
      let body ← bodyDocument operator body
      eachDocument (project vars body) documents
    | some .addFields => do
      let body ← bodyDocument operator body
      eachDocument (addFields vars body) documents
    | some .sort => do
      let body ← bodyDocument operator body
      .ok (sortStage body documents)
    | some .skip => do
      let n ← countOf operator body
      .ok (documents.drop n)
    | some .limit => do
      let n ← countOf operator body
      .ok (documents.take n)
  | .document fields, _ => .error (.malformedStage fields)
  | _, _ => .error (.malformedStage [])
termination_by structural stage => stage

def runStages (catalog : Catalog) (vars : Variables) :
    List Value → List Document → Result (List Document)
  | [], documents => .ok documents
  | stage :: rest, documents => do
    let documents ← runStage catalog vars stage documents
    runStages catalog vars rest documents
termination_by structural stages => stages

def runNested (catalog : Catalog) (vars : Variables) :
    List (String × Value) → List Document → Result (List Document)
  | [], documents => .ok documents
  | (name, .array stages) :: rest, documents =>
    if name = "pipeline" then runStages catalog vars stages documents
    else runNested catalog vars rest documents
  | _ :: rest, documents => runNested catalog vars rest documents
termination_by structural fields => fields

end

def Catalog.run (catalog : Catalog) (collection : String) (pipeline : List Document) :
    Result (List Document) :=
  runStages catalog [] (pipeline.map .document) (catalog.collection collection)

def Catalog.runPlan (catalog : Catalog) (plan : Plan) : Result (List Document) :=
  catalog.run plan.collection plan.pipeline

end RelPipe.Pipeline
