import RelPipe.Document.Value

/-!
Aggregation plans: an ordered list of stages on one collection.
-/

namespace RelPipe

set_option autoImplicit false

inductive StageKind where
  | filter | lookup | unwind | group | project | addFields | sort | skip | limit
deriving DecidableEq

namespace StageKind

def name : StageKind → String
  | filter => "Match"
  | lookup => "Lookup"
  | unwind => "Unwind"
  | group => "Group"
  | project => "Project"
  | addFields => "AddFields"
  | sort => "Sort"
  | skip => "Skip"
  | limit => "Limit"

def operator : StageKind → String
  | filter => "$match"
  | lookup => "$lookup"
  | unwind => "$unwind"
  | group => "$group"
  | project => "$project"
  | addFields => "$addFields"
  | sort => "$sort"
  | skip => "$skip"
  | limit => "$limit"

def all : List StageKind :=
  [filter, lookup, unwind, group, project, addFields, sort, skip, limit]

def ofName? (s : String) : Option StageKind := all.find? fun kind => kind.name == s

def ofOperator? (s : String) : Option StageKind := all.find? fun kind => kind.operator == s

@[simp] theorem ofOperator?_operator (kind : StageKind) :
    ofOperator? kind.operator = some kind := by
  cases kind <;> decide

end StageKind

/-- One stage. The body is a document for most kinds and a number for skips and limits. -/
structure Stage where
  kind : StageKind
  body : Value

def Stage.toDocument (s : Stage) : Document := [(s.kind.operator, s.body)]

structure Plan where
  collection : String
  stages : List Stage

namespace Plan

def on (collection : String) : Plan := ⟨collection, []⟩

/-- Appends a stage, unless its body is an empty document. -/
def add (p : Plan) (kind : StageKind) (body : Value) : Plan :=
  match body with
  | .document [] => p
  | body => { p with stages := p.stages ++ [⟨kind, body⟩] }

def count (p : Plan) (kind : StageKind) : Nat := (p.stages.filter fun s => s.kind == kind).length

def pipeline (p : Plan) : List Document := p.stages.map Stage.toDocument

@[simp] theorem collection_add (p : Plan) (kind : StageKind) (body : Value) :
    (p.add kind body).collection = p.collection := by
  unfold add
  split <;> rfl

end Plan

end RelPipe
