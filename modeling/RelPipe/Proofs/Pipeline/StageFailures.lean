import RelPipe.Proofs.Filter.Native
import RelPipe.Proofs.Pipeline.Running
import RelPipe.Proofs.Pipeline.WellFormed

/-!
Stages that are written as they should be. Running them fails only at an expression that one of
them evaluates, and the pipelines of lookups do so at any depth.
-/

namespace RelPipe

set_option autoImplicit false

open Pipeline

/-! Filters -/

namespace Filter

mutual

def expressions : Filter → List Value
  | computed v => [v]
  | comparison _ _ _ | range _ _ _ | among _ _ => []
  | group _ clauses => expressionsAll clauses
  | negation clause => expressions clause
termination_by structural f => f

def expressionsAll : List Filter → List Value
  | [] => []
  | f :: rest => expressions f ++ expressionsAll rest
termination_by structural fs => fs

end

/-- A filter whose native conditions are comparisons of a field with constants, and whose
expressions are well-formed. -/
inductive Formed : Filter → Prop where
  | computed {v : Value} (h : WellFormed v) : Formed (.computed v)
  | comparison {field : String} {op : BinaryOp} {v : Value} (hField : Text.dollar field = false)
    (hop : op.isComparison = true) (hv : v.isAtom = true) : Formed (.comparison field op v)
  | range {field : String} {low high : Value} (hField : Text.dollar field = false)
    (hLow : low.isAtom = true) (hHigh : high.isAtom = true) : Formed (.range field low high)
  | among {field : String} {values : List Value} (hField : Text.dollar field = false)
    (hValues : ∀ v ∈ values, v.isAtom = true) : Formed (.among field values)
  | group {op : GroupOp} {clauses : List Filter} (h : ∀ f ∈ clauses, Formed f) :
    Formed (.group op clauses)
  | negation {clause : Filter} (h : Formed clause) : Formed (.negation clause)

variable {env : Environment} {P : Error → Prop}

theorem failsOnly_operatorsMatch {operators : Document} {value : Value}
    {fields : List (String × Value)}
    (h : ∀ field ∈ fields, field.1 ≠ "$not" ∧
      FailsOnly P (operatorMatches operators value field.1 field.2)) :
    FailsOnly P (operatorsMatch operators value fields) := by
  induction fields with
  | nil => exact .ok
  | cons field rest ih =>
    obtain ⟨⟨hNot, hFirst⟩, hRest⟩ := List.forall_mem_cons.mp h
    rw [operatorsMatch, if_neg hNot]
    refine hFirst.bind fun matched _ => ?_
    cases matched with
    | true => exact ih hRest
    | false => exact .ok

theorem failsOnly_condition {name : String} (hName : Text.dollar name = false)
    {fields : List (String × Value)}
    (h : ∀ operators value, ∀ field ∈ fields, field.1 ≠ "$not" ∧
      FailsOnly P (operatorMatches operators value field.1 field.2)) :
    FailsOnly P (satisfies env [(name, .document fields)]) := by
  rw [satisfies_field hName, fieldMatches]
  split
  · exact failsOnly_operatorsMatch (h _ _)
  · exact .ok

theorem failsOnly_satisfiesEach {clauses : List Filter}
    (h : ∀ f ∈ clauses, FailsOnly P (satisfies env f.toDocument)) :
    FailsOnly P (satisfiesEach env (toDocuments clauses)) := by
  induction clauses with
  | nil => exact .ok
  | cons f rest ih =>
    obtain ⟨hFirst, hRest⟩ := List.forall_mem_cons.mp h
    rw [satisfiesEach_cons]
    exact hFirst.bind fun _ _ => (ih hRest).map _

theorem expressions_subset_expressionsAll {f : Filter} {fs : List Filter} (h : f ∈ fs) :
    f.expressions ⊆ expressionsAll fs := by
  induction h with
  | head => exact List.subset_append_left _ _
  | tail _ _ ih => exact List.Subset.trans ih (List.subset_append_right _ _)

/-- A filter fails only at an expression that it evaluates. -/
theorem Formed.failsOnly_satisfies {f : Filter} (hf : f.Formed)
    (h : ∀ v ∈ f.expressions, WellFormed v → FailsOnly P (evaluate env v)) :
    FailsOnly P (satisfies env f.toDocument) := by
  induction hf with
  | @computed v hv =>
    rw [satisfies_computed]
    exact (h v (.head _) hv).map _
  | @comparison field op v hField hop hv =>
    cases op with
    | equal =>
      rw [toDocument, satisfies_field hField]
      cases v <;> first | exact .ok | cases hv
    | notEqual | less | lessOrEqual | greater | greaterOrEqual =>
      refine failsOnly_condition hField fun operators value => List.forall_mem_singleton.mpr ?_
      exact ⟨by simp [BinaryOp.operator], .ok⟩
    | _ => cases hop
  | range hField =>
    rw [toDocument]
    refine failsOnly_condition hField fun operators value field hMem => ?_
    obtain rfl | rfl := List.mem_pair.mp hMem
    · exact ⟨by simp, .ok⟩
    · exact ⟨by simp, .ok⟩
  | among hField =>
    rw [toDocument]
    refine failsOnly_condition hField fun operators value => List.forall_mem_singleton.mpr ?_
    exact ⟨by simp, .ok⟩
  | @group op clauses _ ih =>
    rw [satisfies_group]
    refine (failsOnly_satisfiesEach fun f hf => ih f hf fun v hv => ?_).map _
    exact h v (expressions_subset_expressionsAll hf hv)
  | negation _ ih =>
    rw [satisfies_negation]
    exact (ih h).map _

end Filter

/-! Stages -/

def Pipeline.accumulatorNames : List String := ["$sum", "$avg", "$min", "$max", "$first"]

def Pipeline.Accumulates (input : Value) (spec : Value) : Prop :=
  ∃ operator ∈ accumulatorNames, spec = .single operator input

namespace Stage

/-- An expression that a stage evaluates, at any depth. -/
inductive Evaluates : Stage → Value → Prop where
  | filter {f : Filter} {v : Value} (h : v ∈ f.expressions) :
    Evaluates ⟨.filter, .document f.toDocument⟩ v
  | key {body : Document} {v : Value} (h : Fields.get? body "_id" = some v) :
    Evaluates ⟨.group, .document body⟩ v
  | accumulator {body : Document} {field : String × Value} {v : Value} (hField : field ∈ body)
    (h : Accumulates v field.2) : Evaluates ⟨.group, .document body⟩ v
  | project {body : Document} {field : String × Value} (hField : field ∈ body)
    (hFlag : flag? field.2 = none) : Evaluates ⟨.project, .document body⟩ field.2
  | addFields {body : Document} {field : String × Value} (hField : field ∈ body) :
    Evaluates ⟨.addFields, .document body⟩ field.2
  | binding {collection field : String} {cs : Correlations} {plan : Plan} {c : Correlation}
    (hc : c ∈ cs) : Evaluates ⟨.lookup, .document (lookupDocument collection field cs plan)⟩ c.value
  | nested {collection field : String} {cs : Correlations} {plan : Plan} {stage : Stage} {v : Value}
    (hStage : stage ∈ plan.stages) (h : Evaluates stage v) :
    Evaluates ⟨.lookup, .document (lookupDocument collection field cs plan)⟩ v

/-- A stage that is written as it should be, with well-formed expressions. -/
inductive Formed : Stage → Prop where
  | filter {f : Filter} (h : f.Formed) : Formed ⟨.filter, .document f.toDocument⟩
  | unwind (field : String) (keepEmpty : Bool) :
    Formed ⟨.unwind, .document (unwindDocument field keepEmpty)⟩
  | group {key : Value} {accumulators : Document} (hKey : WellFormed key)
    (h : ∀ field ∈ accumulators, ∃ input, Accumulates input field.2 ∧ WellFormed input) :
    Formed ⟨.group, .document (("_id", key) :: accumulators)⟩
  | project {body : Document} (h : ∀ field ∈ body, flag? field.2 = none → WellFormed field.2) :
    Formed ⟨.project, .document body⟩
  | addFields {body : Document} (h : ∀ field ∈ body, WellFormed field.2) :
    Formed ⟨.addFields, .document body⟩
  | sort (order : Document) : Formed ⟨.sort, .document order⟩
  | skip {body : Value} {n : Nat} (h : body.index? = some n) : Formed ⟨.skip, body⟩
  | limit {body : Value} {n : Nat} (h : body.index? = some n) : Formed ⟨.limit, body⟩
  | lookup (collection field : String) {cs : Correlations} {plan : Plan}
    (hBindings : ∀ c ∈ cs, WellFormed c.value) (hStages : ∀ stage ∈ plan.stages, Formed stage) :
    Formed ⟨.lookup, .document (lookupDocument collection field cs plan)⟩

/-- An error of a well-formed expression that a stage evaluates. -/
def Raises (stage : Stage) (e : Error) : Prop :=
  ∃ v env, stage.Evaluates v ∧ WellFormed v ∧ evaluate env v = .error e

theorem failsOnly_raises {stage : Stage} {v : Value} (h : stage.Evaluates v) (hv : WellFormed v)
    (env : Environment) : FailsOnly stage.Raises (evaluate env v) :=
  fun _ he => ⟨v, env, h, hv, he⟩

end Stage

namespace Pipeline

variable {P : Error → Prop} {vars : Variables}

theorem failsOnly_filterStage {filter : Document} (h : ∀ d, FailsOnly P (satisfies ⟨d, vars⟩ filter))
    (documents : List Document) : FailsOnly P (filterStage vars filter documents) := by
  induction documents with
  | nil => exact .ok
  | cons d rest ih => exact (h d).bind fun _ _ => ih.bind fun _ _ => .ok

theorem failsOnly_eachDocument {f : Document → Result Document} (h : ∀ d, FailsOnly P (f d))
    (documents : List Document) : FailsOnly P (eachDocument f documents) := by
  induction documents with
  | nil => exact .ok
  | cons d rest ih => exact (h d).bind fun _ _ => ih.bind fun _ _ => .ok

theorem failsOnly_projectFields {env : Environment} {body : Document}
    (h : ∀ field ∈ body, flag? field.2 = none → FailsOnly P (evaluate env field.2)) :
    FailsOnly P (projectFields env body) := by
  induction body with
  | nil => exact .ok
  | cons field rest ih =>
    obtain ⟨hFirst, hRest⟩ := List.forall_mem_cons.mp h
    rw [projectFields_cons]
    refine FailsOnly.bind ?_ fun _ _ => (ih hRest).map _
    unfold projected
    split
    · exact .ok
    · exact .ok
    · rename_i hFlag
      exact (hFirst hFlag).map _

theorem failsOnly_project {body : Document} {d : Document}
    (h : ∀ field ∈ body, flag? field.2 = none → FailsOnly P (evaluate ⟨d, vars⟩ field.2)) :
    FailsOnly P (project vars body d) := by
  refine (failsOnly_projectFields h).bind fun fields _ => ?_
  split
  · exact .ok
  · split <;> exact .ok

/-! Grouping -/

theorem exists_accumulators {Q : Value → Prop} {fields : Document}
    (h : ∀ field ∈ fields, ∃ input, Accumulates input field.2 ∧ Q input) :
    ∃ out, accumulators fields = .ok out ∧
      ∀ a ∈ out, a.operator ∈ accumulatorNames ∧ Q a.input := by
  induction fields with
  | nil => exact ⟨[], rfl, List.forall_mem_nil _⟩
  | cons field rest ih =>
    obtain ⟨⟨input, ⟨operator, hOperator, hSpec⟩, hInput⟩, hRest⟩ := List.forall_mem_cons.mp h
    obtain ⟨others, hOthers, hAll⟩ := ih hRest
    obtain ⟨name, spec⟩ := field
    rw [accumulators.eq_def]
    by_cases hKey : name = "_id"
    · exact ⟨others, (if_pos hKey).trans hOthers, hAll⟩
    · refine ⟨⟨name, operator, input⟩ :: others, (if_neg hKey).trans ?_, ?_⟩
      · obtain rfl : spec = .single operator input := hSpec
        rw [Value.single]
        dsimp only
        rw [hOthers]
        rfl
      · exact List.forall_mem_cons.mpr ⟨⟨hOperator, hInput⟩, hAll⟩

theorem failsOnly_groupAll {key : Value} {accumulators : List Accumulator}
    (hKey : ∀ d, FailsOnly P (evaluate ⟨d, vars⟩ key))
    (hInputs : ∀ a ∈ accumulators, ∀ d, FailsOnly P (evaluate ⟨d, vars⟩ a.input))
    (groups : List Group) (documents : List Document) :
    FailsOnly P (groupAll vars key accumulators groups documents) := by
  induction documents generalizing groups with
  | nil => exact .ok
  | cons d rest ih =>
    refine (hKey d).bind fun k _ => FailsOnly.bind ?_ fun inputs _ => ih _
    refine failsOnly_evaluateEach fun v hv => ?_
    obtain ⟨a, ha, rfl⟩ := List.mem_map.mp hv
    exact hInputs a ha d

theorem failsOnly_accumulate {operator : String} (h : operator ∈ accumulatorNames)
    (inputs : List Value) : FailsOnly P (accumulate operator inputs) := by
  simp only [accumulatorNames, List.mem_cons, List.not_mem_nil, or_false] at h
  obtain rfl | rfl | rfl | rfl | rfl := h <;> exact .ok

theorem failsOnly_accumulateAll {items : List (Accumulator × List Value)}
    (h : ∀ item ∈ items, item.1.operator ∈ accumulatorNames) :
    FailsOnly P (accumulateAll items) := by
  induction items with
  | nil => exact .ok
  | cons item rest ih =>
    obtain ⟨hFirst, hRest⟩ := List.forall_mem_cons.mp h
    exact (failsOnly_accumulate hFirst _).bind fun _ _ => (ih hRest).bind fun _ _ => .ok

theorem failsOnly_groupDocuments {accumulators : List Accumulator}
    (h : ∀ a ∈ accumulators, a.operator ∈ accumulatorNames) (groups : List Group) :
    FailsOnly P (groupDocuments accumulators groups) := by
  induction groups with
  | nil => exact .ok
  | cons g rest ih =>
    refine FailsOnly.bind ?_ fun _ _ => ih.bind fun _ _ => .ok
    exact failsOnly_accumulateAll fun item hItem => h _ (List.of_mem_zip hItem).1

theorem failsOnly_groupStage {key : Value} {fields : Document}
    (hKey : ∀ d, FailsOnly P (evaluate ⟨d, vars⟩ key))
    (h : ∀ field ∈ fields, ∃ input, Accumulates input field.2 ∧
      ∀ d, FailsOnly P (evaluate ⟨d, vars⟩ input)) (documents : List Document) :
    FailsOnly P (groupStage vars (("_id", key) :: fields) documents) := by
  obtain ⟨out, hOut, hAll⟩ := exists_accumulators h
  have hRead : accumulators (("_id", key) :: fields) = .ok out := by
    rw [accumulators.eq_def]
    exact (if_pos rfl).trans hOut
  rw [groupStage, Fields.get?_cons, if_pos rfl]
  dsimp only
  rw [hRead]
  change FailsOnly P ((groupAll vars key out [] documents).bind _)
  refine FailsOnly.bind (failsOnly_groupAll hKey ?_ [] documents) fun groups _ => ?_
  · exact fun a ha => (hAll a ha).2
  · exact failsOnly_groupDocuments (fun a ha => (hAll a ha).1) groups

/-! Lookups -/

theorem Lookup.failsOnly_bind {env : Environment} {bindings : List (String × Value)}
    (h : ∀ binding ∈ bindings, FailsOnly P (evaluate env binding.2)) (inner : Variables) :
    FailsOnly P (bind env inner bindings) := by
  induction bindings generalizing inner with
  | nil => exact .ok
  | cons binding rest ih =>
    obtain ⟨hFirst, hRest⟩ := List.forall_mem_cons.mp h
    exact hFirst.bind fun v _ => ih hRest _

theorem failsOnly_runStages {catalog : Catalog} {stages : List Stage}
    (h : ∀ stage ∈ stages, ∀ documents,
      FailsOnly P (runStage catalog vars (.document stage.toDocument) documents))
    (documents : List Document) :
    FailsOnly P (runStages catalog vars
      ((stages.map Stage.toDocument).map .document) documents) := by
  induction stages generalizing documents with
  | nil => exact .ok
  | cons stage rest ih =>
    obtain ⟨hFirst, hRest⟩ := List.forall_mem_cons.mp h
    rw [List.map_cons, List.map_cons, runStages_cons]
    exact (hFirst documents).bind fun found _ => ih hRest found

end Pipeline

/-- A stage that is written as it should be fails only at an expression that it evaluates. -/
theorem Stage.Formed.failsOnly_runStage {stage : Stage} (h : stage.Formed) (catalog : Catalog)
    (vars : Variables) (documents : List Document) :
    FailsOnly stage.Raises (runStage catalog vars (.document stage.toDocument) documents) := by
  induction h generalizing vars documents with
  | filter hf =>
    refine (runStage_filter catalog vars _ documents).symm ▸ ?_
    refine failsOnly_filterStage (fun d => hf.failsOnly_satisfies fun v hv hWell => ?_) documents
    exact failsOnly_raises (.filter hv) hWell _
  | unwind field keepEmpty =>
    refine (runStage_unwind catalog vars field keepEmpty documents).symm ▸ ?_
    exact .ok
  | group hKey hInputs =>
    refine (runStage_group catalog vars _ documents).symm ▸ ?_
    refine failsOnly_groupStage (fun d => ?_) (fun field hField => ?_) documents
    · refine failsOnly_raises (.key ?_) hKey _
      rw [Fields.get?_cons, if_pos rfl]
    · obtain ⟨input, hAccumulates, hWell⟩ := hInputs field hField
      refine ⟨input, hAccumulates, fun d => ?_⟩
      exact failsOnly_raises (.accumulator (.tail _ hField) hAccumulates) hWell _
  | project hBody =>
    refine (runStage_project catalog vars _ documents).symm ▸ ?_
    refine failsOnly_eachDocument (fun d => failsOnly_project fun field hField hFlag => ?_) documents
    exact failsOnly_raises (.project hField hFlag) (hBody field hField hFlag) _
  | addFields hBody =>
    refine (runStage_addFields catalog vars _ documents).symm ▸ ?_
    refine failsOnly_eachDocument (fun d => .bind ?_ fun _ _ => .ok) documents
    refine failsOnly_evaluateFields fun field hField => ?_
    exact failsOnly_raises (.addFields hField) (hBody field hField) _
  | sort order =>
    refine (runStage_sort catalog vars order documents).symm ▸ ?_
    exact .ok
  | skip hCount =>
    refine (runStage_skip catalog vars hCount documents).symm ▸ ?_
    exact .ok
  | limit hCount =>
    refine (runStage_limit catalog vars hCount documents).symm ▸ ?_
    exact .ok
  | lookup collection field hBindings _ ih =>
    refine (runStage_lookup catalog vars collection field _ _ documents).symm ▸ ?_
    refine failsOnly_eachDocument (fun d => .bind ?_ fun inner _ => .bind ?_ fun _ _ => .ok)
      documents
    · refine Lookup.failsOnly_bind (fun binding hBinding => ?_) vars
      obtain ⟨c, hc, rfl⟩ := List.mem_map.mp hBinding
      exact failsOnly_raises (.binding hc) (hBindings c hc) _
    · refine failsOnly_runStages (fun stage hStage found => ?_) _
      refine (ih stage hStage inner found).mono ?_
      rintro e ⟨v, env, hEvaluates, hWell, he⟩
      exact ⟨v, env, .nested hStage hEvaluates, hWell, he⟩

end RelPipe
