import RelPipe.Proofs.Planning.Nesting
import RelPipe.Proofs.Planning.StageReads
import RelPipe.Proofs.Planning.Steps
import RelPipe.Proofs.Statement.PathNames

/-!
Every variable of a plan is bound. The stages of a nested pipeline refer to variables that the
lookup around them binds, and what the lookup binds them to refers to variables of the pipeline that
it stands in. At the top there is none. A name that starts like a reference would make a variable of
a path, so the names of the statement must not.
-/

namespace RelPipe

set_option autoImplicit false

namespace Pipeline

/-- A pipeline lies in another at some depth. The names are those that the innermost lookup
around it binds. -/
inductive Contains : List String → List Document → List String → List Document → Prop where
  | itself (bound : List String) (pipeline : List Document) :
    Contains bound pipeline bound pipeline
  | nested {bound inner : List String} {pipeline stages found : List Document}
    {body : Document} {lookup : Lookup} (hStage : [("$lookup", .document body)] ∈ pipeline)
    (hLookup : Lookup.ofDocument body = .ok lookup)
    (hPipeline : Fields.get? body "pipeline" = some (.array (stages.map .document)))
    (h : Contains (lookup.bindings.map Prod.fst) stages inner found) :
    Contains bound pipeline inner found

/-- A pipeline and those in it are made of stages, and each stage refers only to numbered variables
that the innermost lookup around it binds. -/
def Bound (bound : List String) (pipeline : List Document) : Prop :=
  ∀ inner found, Contains bound pipeline inner found → ∀ document ∈ found,
    ∃ stage : Stage, document = stage.toDocument ∧
      ∀ name, "$$" ++ name ∈ stage.reads →
        name ∈ inner ∧ ∃ index, name = Correlations.variableName index

end Pipeline

def Plan.Bound (plan : Plan) : Prop := Pipeline.Bound [] plan.pipeline

/-- A stage refers to the given variables only, and so do the stages of its pipeline to those that
it binds, if it is a lookup. -/
structure Stage.Bound (bound : List String) (stage : Stage) : Prop where
  reads : ∀ name, "$$" ++ name ∈ stage.reads → name ∈ bound
  nested : ∀ body stages lookup, stage = ⟨.lookup, .document body⟩ →
    Pipeline.Lookup.ofDocument body = .ok lookup →
    Fields.get? body "pipeline" = some (.array (stages.map .document)) →
    Pipeline.Bound (lookup.bindings.map Prod.fst) stages

theorem Stage.Bound.of_kind {bound : List String} {stage : Stage} (hKind : stage.kind ≠ .lookup)
    (h : ∀ name, "$$" ++ name ∈ stage.reads → name ∈ bound) : stage.Bound bound where
  reads := h
  nested _ _ _ hStage := absurd (congrArg Stage.kind hStage) hKind

theorem Pipeline.bound_of_stages {bound : List String} {stages : List Stage}
    (hNames : ∀ name ∈ bound, ∃ index, name = Correlations.variableName index)
    (h : ∀ stage ∈ stages, stage.Bound bound) :
    Pipeline.Bound bound (stages.map Stage.toDocument) := by
  intro inner found hContains
  cases hContains with
  | itself =>
    intro document hDocument
    obtain ⟨stage, hStage, rfl⟩ := List.mem_map.mp hDocument
    refine ⟨stage, rfl, fun name hRead => ?_⟩
    have hBound := (h stage hStage).reads name hRead
    exact ⟨hBound, hNames name hBound⟩
  | nested hStage hLookup hPipeline hInner =>
    obtain ⟨⟨kind, body⟩, hMem, hDocument⟩ := List.mem_map.mp hStage
    have hPair := List.head_eq_of_cons_eq hDocument
    have hKind : kind = .lookup := by
      have hOperator : kind.operator = StageKind.lookup.operator := congrArg Prod.fst hPair
      have hOf := congrArg StageKind.ofOperator? hOperator
      simpa using hOf
    obtain rfl : body = _ := congrArg Prod.snd hPair
    subst hKind
    exact (h _ hMem).nested _ _ _ rfl hLookup hPipeline _ _ hInner

/-! Names -/

def Undollared (names : List String) : Prop := ∀ name ∈ names, Text.dollar name = false

theorem Undollared.mono {names more : List String} (h : Undollared more) (hNames : names ⊆ more) :
    Undollared names :=
  fun name hName => h name (hNames hName)

theorem Text.ne_variable {text name : String} (h : dollar text = false) :
    "$" ++ text ≠ "$$" ++ name := by
  intro hText
  have hRest : text = "$" ++ name := by
    have hSplit : "$$" ++ name = "$" ++ ("$" ++ name) := by
      rw [← String.append_assoc]
      rfl
    exact (String.append_right_inj _).mp (hText.trans hSplit)
  rw [hRest, dollar_dollar_append] at h
  cases h

/-- A scope in which no path and no field starts like a reference. -/
structure Scope.Clean (scope : Scope) : Prop where
  paths : ∀ name path, scope.aliases.paths.get? name = some path → Text.dollar path = false
  fields : ∀ signature field, scope.subqueryField? signature = some field →
    Text.dollar field = false

theorem Scope.clean_rooted (root : String) (cs : Correlations) : (Scope.rooted root cs).Clean where
  paths name path h := by
    change (CaselessMap.insert CaselessMap.empty root "").get? name = some path at h
    rw [CaselessMap.get?_insert] at h
    split at h
    · cases h
      rfl
    · cases h
  fields signature field h := by cases h

theorem Scope.Clean.registerAlias {scope : Scope} (h : scope.Clean) {field : String}
    (hField : Text.dollar field = false) : (scope.registerAlias field field).Clean where
  paths name path hPath := by
    change (CaselessMap.insert scope.aliases.paths field field).get? name = some path at hPath
    rw [CaselessMap.get?_insert] at hPath
    split at hPath
    · cases hPath
      exact hField
    · exact h.paths name path hPath
  fields := h.fields

theorem Scope.Clean.mem_variables {scope : Scope} (h : scope.Clean) {ref : ColumnRef}
    (hRef : Text.dollar (ColumnName.normalize ref.name) = false) {name : String}
    (hPath : scope.columnPath ref = "$$" ++ name) :
    name ∈ scope.correlations.map Correlation.name := by
  unfold columnPath at hPath
  split at hPath
  · rename_i variableName hFound
    obtain ⟨c, hc, _, rfl⟩ := Correlations.exists_of_nameOf? hFound
    obtain rfl := (String.append_right_inj _).mp hPath
    exact List.mem_map.mpr ⟨c, hc, rfl⟩
  · unfold AliasTable.fieldPath at hPath
    dsimp only at hPath
    split at hPath
    · rename_i path hFound
      split at hPath
      · exact absurd hPath (Text.ne_variable hRef)
      · rename_i hSome
        rw [String.append_assoc, String.append_assoc] at hPath
        exact absurd hPath (Text.ne_variable (Text.dollar_append hSome (h.paths _ _ hFound) _))
    · exact absurd hPath (Text.ne_variable hRef)

/-! What expressions read -/

def IsVariable (r : String) : Prop := ∃ name, r = "$$" ++ name

theorem ungrouped_isVariable : Ungrouped IsVariable := by
  rintro r ⟨name, rfl⟩
  simp

theorem Site.Reads.mem_variables {site : Site} (hScope : site.scope.Clean)
    (hg : Grouping.Numbered site.grouping.aggregates) {e : Expression} {r : String}
    (h : site.Reads e r) (hNames : Undollared e.pathNames) {name : String}
    (hr : r = "$$" ++ name) : name ∈ site.scope.correlations.map Correlation.name := by
  induction h with
  -- What stands for an entry is a field of the group.
  | entry hEntry hMem =>
    exact absurd ⟨name, hr⟩ (Grouping.not_of_operand? ungrouped_isVariable hg hEntry hMem)
  | itself hNone h =>
    cases h with
    | column ref => exact hScope.mem_variables (hNames _ (.head _)) hr
    | property n => exact absurd hr (Text.ne_variable (hNames _ (.head _)))
    | subquery _ hField => exact absurd hr (Text.ne_variable (hScope.fields _ _ hField))
    | suffix => exact absurd hr (by simp [← String.toList_inj])
  | input hNone hc _ ih => exact ih (hNames.mono (Expression.pathNames_input_subset hc)) hr

/-! Plans in the making -/

/-- The names of a plan in the making are clean, its variables are numbered, and its stages refer to
these only. -/
structure Planning.Bound (p : Planning) : Prop where
  clean : p.scope.Clean
  numbered : p.scope.correlations.Numbered
  stages : ∀ stage ∈ p.plan.stages, stage.Bound (p.scope.correlations.map Correlation.name)

theorem Planning.bound_start (table root : String) {cs : Correlations} (h : cs.Numbered) :
    (Planning.start table root cs).Bound :=
  ⟨Scope.clean_rooted root cs, h, List.forall_mem_nil _⟩

theorem Planning.Bound.pipeline {p : Planning} (h : p.Bound) :
    Pipeline.Bound (p.scope.correlations.map Correlation.name) p.plan.pipeline := by
  refine Pipeline.bound_of_stages ?_ h.stages
  intro name hName
  obtain ⟨c, hc, rfl⟩ := List.mem_map.mp hName
  exact h.numbered.exists_index hc

theorem Plan.mem_stages_of_add {p : Plan} {kind : StageKind} {body : Value} {stage : Stage}
    (h : stage ∈ (p.add kind body).stages) : stage ∈ p.stages ∨ stage = ⟨kind, body⟩ := by
  unfold add at h
  split at h
  · exact .inl h
  · obtain h | h := List.mem_append.mp h
    · exact .inl h
    · exact .inr (List.mem_singleton.mp h)

theorem Planning.Bound.add {p : Planning} (h : p.Bound) {kind : StageKind} {body : Document}
    (hStage : Stage.Bound (p.scope.correlations.map Correlation.name) ⟨kind, .document body⟩) :
    (p.add kind body).Bound where
  clean := h.clean
  numbered := h.numbered
  stages stage hMem := by
    obtain hMem | rfl := Plan.mem_stages_of_add hMem
    · exact h.stages stage hMem
    · exact hStage

/-! Lookups -/

/-- Variables are bound to the paths of columns. -/
def Correlations.ReadFrom (scope : Scope) (cs : Correlations) : Prop :=
  ∀ c ∈ cs, ∃ ref, Text.dollar (ColumnName.normalize ref.name) = false ∧
    c.value = .string (scope.columnPath ref)

theorem Correlations.readFrom_bindColumns {scope : Scope} {wanted : String → Bool}
    {refs : List ColumnRef}
    (h : ∀ ref ∈ refs, Text.dollar (ColumnName.normalize ref.name) = false) :
    (bindColumns wanted scope.columnPath [] refs).ReadFrom scope := by
  intro c hc
  obtain hNil | ⟨ref, hRef, _, _, _, _, hValue⟩ := mem_bindColumns hc
  · cases hNil
  · exact ⟨ref, h ref hRef, hValue⟩

theorem Planning.readFrom_subqueryCorrelations {p : Planning} {a : Aggregate}
    (h : Undollared a.pathNames) : (p.subqueryCorrelations a).ReadFrom p.scope := by
  rw [subqueryCorrelations_eq]
  exact Correlations.readFrom_bindColumns fun ref hRef =>
    h _ (Aggregate.mem_pathNames_of_outer [] a hRef)

theorem Planning.readFrom_joinCorrelations {p : Planning} {field : String}
    {condition : Option Expression} (h : ∀ e, condition = some e → Undollared e.pathNames) :
    (p.joinCorrelations field condition).ReadFrom p.scope := by
  rw [joinCorrelations_eq]
  refine Correlations.readFrom_bindColumns fun ref hRef => ?_
  obtain ⟨e, he, hRef⟩ := List.mem_flatMap.mp hRef
  exact h e (Option.mem_toList.mp he) _ (Expression.mem_pathNames_of_outer [] e hRef)

/-- What a lookup refers to is what it binds its variables to. -/
theorem Stage.exists_of_mem_reads_lookup {collection field : String} {cs : Correlations}
    (hNumbered : cs.Numbered) {plan : Plan} {r : String}
    (hr : r ∈ (⟨.lookup, .document (lookupDocument collection field cs plan)⟩ : Stage).reads) :
    ∃ c ∈ cs, r ∈ c.value.freeReferences := by
  have hLet : Fields.get? (lookupDocument collection field cs plan) "let" =
      if cs.isEmpty then none else some (.document cs.toDocument) := by
    cases cs <;> simp [lookupDocument, Fields.get?_cons]
  change r ∈ ((Fields.get? (lookupDocument collection field cs plan) "let").map
    Value.freeReferences).getD [] at hr
  rw [hLet] at hr
  split at hr
  · cases hr
  · have hNames : ∀ binding ∈ cs.toDocument, Text.dollar binding.1 = false := by
      intro binding hBinding
      obtain ⟨c, hc, rfl⟩ := List.mem_map.mp hBinding
      obtain ⟨index, hIndex⟩ := hNumbered.exists_index hc
      simp [hIndex, Correlations.variableName, Text.dollar]
    obtain ⟨binding, hBinding, hr⟩ := Value.exists_of_mem_freeReferences hNames hr
    obtain ⟨c, hc, rfl⟩ := List.mem_map.mp hBinding
    exact ⟨c, hc, hr⟩

theorem Stage.bound_lookup {scope : Scope} (hScope : scope.Clean) {inner : Planning}
    (hInner : inner.Bound) (hRead : inner.scope.correlations.ReadFrom scope)
    (collection field : String) :
    Stage.Bound (scope.correlations.map Correlation.name) ⟨.lookup,
      .document (lookupDocument collection field inner.scope.correlations inner.plan)⟩ where
  reads name hName := by
    obtain ⟨c, hc, hr⟩ := exists_of_mem_reads_lookup hInner.numbered hName
    obtain ⟨ref, hRef, hValue⟩ := hRead c hc
    rw [hValue] at hr
    obtain ⟨_, hPath⟩ := Value.mem_freeReferences_string.mp hr
    exact hScope.mem_variables hRef hPath.symm
  nested body stages lookup hStage hLookup hPipeline := by
    cases hStage
    rw [Pipeline.Lookup.ofDocument_lookupDocument] at hLookup
    cases hLookup
    have hFound : Fields.get? (lookupDocument collection field inner.scope.correlations inner.plan)
        "pipeline" = some (.array (inner.plan.pipeline.map .document)) := by
      cases inner.scope.correlations <;> simp [lookupDocument, Fields.get?_cons]
    rw [hFound] at hPipeline
    have hStages : inner.plan.pipeline = stages := by
      have hArray := Value.array.inj (Option.some.inj hPipeline)
      exact List.map_injective_iff.mpr (fun _ _ => Value.document.inj) hArray
    have hNames : (inner.scope.correlations.toDocument).map Prod.fst =
        inner.scope.correlations.map Correlation.name := by
      simp [Correlations.toDocument]
    rw [← hStages, hNames]
    exact hInner.pipeline

theorem Stage.bound_unwind {bound : List String} {field : String}
    (h : Text.dollar field = false) (keepEmpty : Bool) :
    Stage.Bound bound ⟨.unwind, .document (unwindDocument field keepEmpty)⟩ := by
  refine .of_kind (by simp) fun name hName => ?_
  obtain ⟨_, hPath⟩ := Value.mem_freeReferences_string.mp
    (show "$$" ++ name ∈ (Value.string ("$" ++ field)).freeReferences from hName)
  exact absurd hPath.symm (Text.ne_variable h)

theorem Planning.Bound.attachJoin {p inner : Planning} (h : p.Bound) (hInner : inner.Bound)
    (hRead : inner.scope.correlations.ReadFrom p.scope) {field : String}
    (hField : Text.dollar field = false) (table : String) (kind : JoinKind) :
    (p.attachJoin table field kind inner).Bound := by
  have hLookup := h.add (Stage.bound_lookup h.clean hInner hRead table field)
  have hUnwind := hLookup.add (Stage.bound_unwind hField (kind ≠ .inner))
  exact ⟨h.clean.registerAlias hField, h.numbered, hUnwind.stages⟩

theorem Planning.not_mem_emptyResult (kind : AggregateKind) (r : String) :
    r ∉ (emptyResult kind).freeReferences := by
  cases kind <;> exact List.not_mem_nil

theorem Planning.Bound.attachSubquery {p inner : Planning} (h : p.Bound) (hInner : inner.Bound)
    (hRead : inner.scope.correlations.ReadFrom p.scope) (a : Aggregate) (g : Grouping) :
    (p.attachSubquery p.nextField a inner g).Bound := by
  have hField : Text.dollar p.nextField = false := by simp [nextField, Text.dollar]
  have hResult : Text.dollar (p.nextField ++ ".value") = false := by simp [nextField, Text.dollar]
  have hLookup := h.add (Stage.bound_lookup h.clean hInner hRead inner.plan.collection p.nextField)
  have hUnwind := hLookup.add (Stage.bound_unwind hField true)
  have hStage : Stage.Bound (p.scope.correlations.map Correlation.name) ⟨.addFields, .document
      [(p.nextField, .apply "$ifNull"
        [.string ("$" ++ p.nextField ++ ".value"), emptyResult a.kind])]⟩ := by
    refine .of_kind (by simp) fun name hName => ?_
    obtain ⟨field, hMem, hr⟩ := List.mem_flatMap.mp hName
    obtain rfl := List.mem_singleton.mp hMem
    rw [Value.mem_freeReferences_apply (by decide)] at hr
    obtain ⟨v, hv, hr⟩ := hr
    obtain rfl | rfl := List.mem_pair.mp hv
    · obtain ⟨_, hPath⟩ := Value.mem_freeReferences_string.mp hr
      rw [String.append_assoc] at hPath
      exact absurd hPath.symm (Text.ne_variable hResult)
    · exact absurd hr (not_mem_emptyResult a.kind _)
  have hFields := hUnwind.add hStage
  refine ⟨⟨h.clean.paths, fun signature field hFound => ?_⟩, h.numbered, hFields.stages⟩
  rw [subqueryField?_attachSubquery] at hFound
  obtain hFound | ⟨_, hFound⟩ := Option.or_eq_some_iff.mp hFound
  · exact h.clean.fields signature field hFound
  · split at hFound
    · cases hFound
      exact hField
    · cases hFound

/-! The stages from a condition on -/

theorem Grouping.numbered_empty : Numbered empty.aggregates := List.forall_mem_nil _

section

variable {caseSensitive : Bool}

theorem Planning.Bound.filter {p q : Planning} (h : p.Bound) {g : Grouping}
    (hg : Grouping.Numbered g.aggregates) {condition : Option Expression}
    (hNames : ∀ e, condition = some e → Undollared e.pathNames)
    (hq : p.filter ⟨p.scope, g, caseSensitive⟩ condition = .ok q) : q.Bound := by
  cases condition with
  | none =>
    cases hq
    exact h
  | some e =>
    obtain ⟨body, hBody, hq⟩ := exists_of_bind_eq_ok hq
    cases hq
    refine h.add (.of_kind (by simp) fun name hName => ?_)
    have hReads := (Stage.mem_reads_filter hBody).mp hName
    exact hReads.mem_variables h.clean hg (hNames e rfl) rfl

theorem Planning.Bound.group {p : Planning} (h : p.Bound) {s : Statement}
    (hNames : Undollared s.pathNames) {body : Document}
    (hBody : (Grouping.ofStatement s).stageDocument (p.site caseSensitive) = .ok body) :
    (p.add .group body).Bound := by
  have hRead : ∀ {e c : Expression} {name : String}, e ∈ s.expressions → c.LocalPart e →
      (p.site caseSensitive).Reads c ("$$" ++ name) →
      name ∈ p.scope.correlations.map Correlation.name := by
    intro e c name he hc hReads
    have hPart := List.Subset.trans hc.pathNames_subset (Statement.expression_subset he)
    exact hReads.mem_variables h.clean Grouping.numbered_empty (hNames.mono hPart) rfl
  have hGroupBy : ∀ e ∈ s.groupBy, e ∈ s.expressions :=
    fun e he => Statement.mem_expressions.mpr (.inr (.inr (.inl he)))
  have hKeys : ∀ k ∈ (Grouping.ofStatement s).keys, Text.dollar k.name = false := by
    intro k hk
    refine Grouping.dollar_of_mem_keys (fun ref hRef => ?_) hk
    exact hNames _ (Statement.expression_subset (hGroupBy _ hRef) (.head _))
  refine h.add (.of_kind (by simp) fun name hName => ?_)
  obtain ⟨k, hk, c, hc, hReads⟩ | ⟨a, ha, t, ht, hReads⟩ :=
    Grouping.exists_of_mem_reads hBody hKeys hName
  · exact hRead (hGroupBy _ (Grouping.mem_groupBy_of_mem_keys hk)) hc hReads
  · obtain ⟨e, he, hPart⟩ := Grouping.exists_localPart_of_mem_aggregates ha ht
    exact hRead he hPart hReads

theorem Planning.Bound.narrow {p q : Planning} (h : p.Bound) {s : Statement}
    (hNames : Undollared s.pathNames) {g : Grouping}
    (hq : p.narrow caseSensitive s = .ok (q, g)) : q.Bound := by
  obtain ⟨rfl, filtered, grouped, hFiltered, hGrouped, hKept⟩ := Planning.exists_narrowed hq
  have hExpression : ∀ e ∈ s.expressions, Undollared e.pathNames :=
    fun e he => hNames.mono (Statement.expression_subset he)
  have hCondition : ∀ e, s.condition = some e → Undollared e.pathNames :=
    fun e he => hExpression e (Statement.mem_expressions.mpr (.inr (.inl he)))
  have hHaving : ∀ e, s.having = some e → Undollared e.pathNames :=
    fun e he => hExpression e (Statement.mem_expressions.mpr (.inr (.inr (.inr (.inl he)))))
  have hFirst : filtered.Bound := h.filter Grouping.numbered_empty hCondition hFiltered
  have hScope : filtered.scope = p.scope := (Planning.extends_filter hFiltered).2
  have hSite : p.site caseSensitive = filtered.site caseSensitive := by rw [site, site, hScope]
  have hGroups : grouped.Bound ∧ grouped.scope = p.scope := by
    obtain ⟨_, rfl⟩ | ⟨_, body, hBody, rfl⟩ := hGrouped
    · exact ⟨hFirst, hScope⟩
    · rw [hSite] at hBody
      exact ⟨hFirst.group hNames hBody, hScope⟩
  rw [← hGroups.2] at hKept
  exact hGroups.1.filter (Grouping.numbered_ofStatement s) hHaving hKept

theorem Aggregate.aggregated_subset {a : Aggregate} {t : Expression} (h : a.aggregated? = some t) :
    t.pathNames ⊆ a.pathNames := by
  obtain ht | ⟨_, ht⟩ := Option.or_eq_some_iff.mp h
  · exact target_subset ht
  · obtain ⟨s, hs, ht⟩ := Option.bind_eq_some_iff.mp ht
    obtain ⟨o, ho, rfl⟩ := Option.map_eq_some_iff.mp ht
    have hOperand : o.expression ∈ s.expressions :=
      Statement.mem_expressions.mpr (.inl ⟨o, List.mem_of_head? ho, rfl⟩)
    exact List.Subset.trans (Statement.expression_subset hOperand) (statement_subset hs)

theorem AggregateKind.eq_of_mem_projection {kind : AggregateKind} {r : String}
    (h : r ∈ kind.projection.freeReferences) : r = "$agg" := by
  have hField : r ∈ (Value.string "$agg").freeReferences := by
    cases kind with
    | «exists» => simpa [projection] using h
    | _ => exact h
  exact (Value.mem_freeReferences_string.mp hField).2

theorem Planning.Bound.reduce {p q : Planning} (h : p.Bound) {g : Grouping}
    (hg : Grouping.Numbered g.aggregates) {a : Aggregate} (hNames : Undollared a.pathNames)
    (hq : p.reduce ⟨p.scope, g, caseSensitive⟩ a = .ok q) : q.Bound := by
  obtain ⟨input, accumulator, hInput, hAccumulator, rfl⟩ := exists_of_reduce hq
  have hGroup : Stage.Bound (p.scope.correlations.map Correlation.name)
      ⟨.group, .document [("_id", .null), ("agg", accumulator)]⟩ := by
    refine .of_kind (by simp) fun name hName => ?_
    obtain ⟨field, hField, hr⟩ := List.mem_flatMap.mp hName
    obtain rfl | rfl := List.mem_pair.mp hField
    · cases hr
    · obtain ⟨i, hi, hr⟩ := AggregateKind.exists_of_mem_accumulator hAccumulator hr
      obtain rfl := Option.some.inj hi
      cases ht : a.aggregated? with
      | none =>
        rw [ht] at hInput
        cases hInput
        cases hr
      | some t =>
        rw [ht] at hInput
        have hReads := ((Site.refers _ t).value input hInput _).mp hr
        exact hReads.mem_variables h.clean hg (hNames.mono (Aggregate.aggregated_subset ht)) rfl
  refine (h.add hGroup).add (.of_kind (by simp) fun name hName => ?_)
  obtain ⟨field, hField, hr⟩ := List.mem_flatMap.mp hName
  obtain rfl := List.mem_singleton.mp hField
  have hFlag : Pipeline.flag? a.kind.projection = none := by cases a.kind <;> rfl
  rw [hFlag, if_neg (by simp)] at hr
  have hAggregate := AggregateKind.eq_of_mem_projection hr
  exact absurd hAggregate.symm (Text.ne_variable (show Text.dollar "agg" = false from rfl))

/-! Statements -/

/-- The statement of a subquery is planned with its variables bound. -/
def Statement.PlansBound (caseSensitive : Bool) (s : Statement) : Prop :=
  ∀ cs q g, Undollared s.pathNames → cs.Numbered → s.planSource caseSensitive cs = .ok (q, g) →
    q.Bound

theorem Statement.grouping_planSource {s : Statement} {cs : Correlations} {q : Planning}
    {g : Grouping} (h : s.planSource caseSensitive cs = .ok (q, g)) : g = .ofStatement s := by
  obtain ⟨_, _, _, _, hNarrow⟩ := s.exists_steps h
  exact (Planning.exists_narrowed hNarrow).1

theorem Planning.Bound.attaches {p q : Planning} (h : p.Bound) {a : Aggregate}
    (hStatement : ∀ t, a.statement = some t → t.PlansBound caseSensitive)
    (hNames : Undollared a.pathNames) (hStep : Attaches caseSensitive a p q) : q.Bound := by
  cases hStep with
  | @attach kind target s _ inner reduced g hPlanned hReduced =>
    have hNumbered : (p.subqueryCorrelations ⟨kind, target, some s⟩).Numbered := by
      rw [subqueryCorrelations_eq]
      exact Correlations.numbered_bindColumns Correlations.numbered_nil _
    have hInner : inner.Bound :=
      hStatement s rfl _ _ _ (hNames.mono (Aggregate.statement_subset rfl)) hNumbered hPlanned
    have hGroups : Grouping.Numbered g.aggregates := by
      rw [Statement.grouping_planSource hPlanned]
      exact Grouping.numbered_ofStatement s
    -- Planning the statement adds no variable to those that it starts with.
    have hCorrelations : reduced.scope.correlations =
        p.subqueryCorrelations ⟨kind, target, some s⟩ := by
      rw [(extends_reduce hReduced).2]
      exact Statement.correlations_planSource hPlanned
    refine h.attachSubquery (hInner.reduce hGroups hNames hReduced) ?_ _ g
    rw [hCorrelations]
    exact readFrom_subqueryCorrelations hNames

theorem Planning.Bound.attachesAll {p q : Planning} (h : p.Bound) {wanted : Aggregate → Prop}
    (hStatement : ∀ a, wanted a → ∀ t, a.statement = some t → t.PlansBound caseSensitive)
    (hNames : ∀ a, wanted a → Undollared a.pathNames)
    (hSteps : AttachesAll caseSensitive wanted p q) : q.Bound := by
  induction hSteps with
  | refl => exact h
  | tail _ hStep ih =>
    obtain ⟨a, ha, hAttaches⟩ := hStep
    exact ih.attaches (hStatement a ha) (hNames a ha) hAttaches

theorem JoinNode.dollar_fieldAt {node : JoinNode} (h : Text.dollar node.declaredAlias = false)
    (p : Planning) : Text.dollar (node.fieldAt p) = false := by
  by_cases hNamed : node.declaredAlias = ""
  · have hNumber : node.fieldAt p = "j" ++ Text.Numeral.ofNat p.plan.stages.length := by
      obtain ⟨table, aliasName, kind, condition, joins⟩ := node
      unfold declaredAlias at hNamed
      split at hNamed
      · split at hNamed
        · simp_all [fieldAt, fieldName, Option.filter]
        · contradiction
      · simp_all [fieldAt, fieldName]
    simp [hNumber, Text.dollar]
  · rw [fieldAt_eq_declaredAlias hNamed]
    exact h

theorem Planning.Bound.planOne {p q : Planning} (h : p.Bound) {node : JoinNode}
    (hAlias : Text.dollar node.declaredAlias = false)
    (hNames : ∀ e, node.condition = some e → Undollared e.pathNames)
    (hStatement : ∀ e, node.condition = some e → ∀ a, e.HasSubquery a → ∀ t,
      a.statement = some t → t.PlansBound caseSensitive)
    (hOne : node.planOne caseSensitive p = .ok q) : q.Bound := by
  obtain ⟨inner, joined, hJoined, rfl⟩ := JoinNode.exists_of_planOne hOne
  have hNumbered : (p.joinCorrelations (node.fieldAt p) node.condition).Numbered := by
    rw [joinCorrelations_eq]
    exact Correlations.numbered_bindColumns Correlations.numbered_nil _
  have hStart : (node.startAt p).Bound := by
    have hRooted := bound_start node.table (node.fieldAt p) hNumbered
    exact ⟨hRooted.clean, hRooted.numbered, hRooted.stages⟩
  have hInner : inner.Bound := by
    have hPlanned := hJoined.planned
    cases hCondition : node.condition with
    | none =>
      rw [hCondition] at hPlanned
      cases hPlanned
      exact hStart
    | some e =>
      rw [hCondition] at hPlanned
      refine hStart.attachesAll (hStatement e hCondition) (fun a ha => ?_)
        (e.attachesAll_plan hPlanned)
      exact (hNames e hCondition).mono ha.pathNames_subset
  have hCorrelations : joined.scope.correlations =
      p.joinCorrelations (node.fieldAt p) node.condition := by
    obtain ⟨hPlanned, hFiltered⟩ := hJoined.extends
    exact hFiltered.correlations.trans hPlanned.correlations
  refine h.attachJoin (hInner.filter Grouping.numbered_empty hNames hJoined.filtered) ?_
    (node.dollar_fieldAt hAlias p) _ _
  rw [hCorrelations]
  exact readFrom_joinCorrelations hNames

theorem Planning.Bound.plansAll {p q : Planning} (h : p.Bound) {s : Statement}
    (hNames : Undollared s.pathNames)
    (hStatement : ∀ a t, s.Holds a → a.statement = some t → t.PlansBound caseSensitive)
    (hSteps : JoinNode.PlansAll caseSensitive s.joins p q) : q.Bound := by
  induction hSteps with
  | refl => exact h
  | tail _ hStep ih =>
    obtain ⟨node, hNode, hOne⟩ := hStep
    refine ih.planOne (hNames _ (Statement.declaredAlias_mem_pathNames hNode)) ?_ ?_ hOne
    · exact fun e he => hNames.mono (Statement.joinCondition_subset hNode he)
    · exact fun e he a ha t => hStatement a t (.inr ⟨node, hNode, e, he, ha⟩)

/-- A statement is planned with its variables bound, and so are its subqueries at any depth. -/
theorem Statement.plansBound (s : Statement) : s.PlansBound caseSensitive := by
  induction s using Statement.holds_induction with
  | step s ih =>
    intro cs q g hNames hNumbered h
    obtain ⟨joined, planned, hJoins, hSubqueries, hNarrow⟩ := s.exists_steps h
    have hJoined : joined.Bound :=
      (Planning.bound_start s.table _ hNumbered).plansAll hNames ih hJoins
    have hPlanned : planned.Bound := by
      refine hJoined.attachesAll (fun a ha t => ih a t (.inl ha)) ?_ hSubqueries
      rintro a ⟨e, he, ha⟩
      exact hNames.mono (List.Subset.trans ha.pathNames_subset (Statement.expression_subset he))
    exact hPlanned.narrow hNames hNarrow

theorem Statement.mem_expressions_of_projected {s : Statement} {g : Grouping}
    {field : String × Expression} (h : field ∈ s.outputs ++ s.helpers g) :
    field.2 ∈ s.expressions := by
  obtain h | h := List.mem_append.mp h
  · obtain ⟨column, hColumn, rfl⟩ := List.mem_map.mp h
    exact mem_expressions.mpr (.inl ⟨column.1, (List.of_mem_zip hColumn).1, rfl⟩)
  · exact mem_expressions.mpr (.inr (.inr (.inr (.inr (Projection.exists_of_mem_helpers h)))))

theorem Text.dollar_of_not_mem {text : String} (h : '$' ∉ text.toList) : dollar text = false := by
  rw [dollar, beq_eq_false_iff_ne]
  exact fun hHead => h (List.mem_of_head? hHead)

theorem Planning.Bound.project {p q : Planning} (h : p.Bound) {s : Statement} {g : Grouping}
    (hg : Grouping.Numbered g.aggregates) (hNames : Undollared s.pathNames)
    (hq : p.project ⟨p.scope, g, caseSensitive⟩ s (OutputColumn.fieldNames s.operands) = .ok q) :
    q.Bound := by
  obtain ⟨specs, helperSpecs, tail, hSpecs, hHelpers, hStages, hTail⟩ := exists_of_project hq
  have hScope : q.scope = p.scope := (extends_project hq).1
  have hWritten : List.Forall₂ (Reflects IsVariable ⟨p.scope, g, caseSensitive⟩)
      (s.outputs ++ s.helpers g) (specs ++ helperSpecs) := by
    refine List.rel_append (hSpecs.imp fun _ _ h => h.reflects) (hHelpers.imp fun _ _ h => ?_)
    exact h.reflects ungrouped_isVariable hg
  have hProject : Stage.Bound (p.scope.correlations.map Correlation.name)
      (projectStage (specs ++ helperSpecs)) := by
    refine .of_kind (by simp [projectStage]) fun name hName => ?_
    obtain ⟨field, e, hField, hReads⟩ := (mem_reads_projectStage hWritten ⟨name, rfl⟩).mp hName
    have hMem := List.mem_reverse.mp (Fields.mem_of_get? hField)
    have hExpression := Statement.expression_subset (Statement.mem_expressions_of_projected hMem)
    exact hReads.mem_variables h.clean hg (hNames.mono hExpression) rfl
  have hArranged : ∀ stage ∈ tail, stage.Bound (p.scope.correlations.map Correlation.name) := by
    intro stage hStage
    have hArranges := hTail stage hStage
    refine .of_kind (by cases hArranges <;> simp) fun name hName => ?_
    obtain ⟨field, hField, hPath⟩ := hArranges.exists_of_mem_reads hName
    rw [names_eq_of_forall₂ (fun _ _ h => h.name) hWritten] at hField
    have hDollar := Text.dollar_of_not_mem (Statement.not_mem_projected (.inr rfl) hField)
    exact absurd hPath.symm (Text.ne_variable hDollar)
  refine ⟨hScope ▸ h.clean, hScope ▸ h.numbered, fun stage hStage => ?_⟩
  rw [hStages, List.mem_append, List.mem_cons] at hStage
  rw [hScope]
  obtain hStage | rfl | hStage := hStage
  · exact h.stages stage hStage
  · exact hProject
  · exact hArranged stage hStage

/-- Every variable of a plan is bound, if no name that its paths are made of starts like a
reference. -/
theorem Statement.bound_compile {s : Statement} (hNames : Undollared s.pathNames) {plan : Plan}
    {ctx : Context} (h : s.compile caseSensitive = .ok (plan, ctx)) : plan.Bound := by
  obtain ⟨⟨p, g⟩, hPlanned, h⟩ := exists_of_bind_eq_ok h
  obtain ⟨q, hProjected, h⟩ := exists_of_bind_eq_ok h
  cases h
  have hSource : p.Bound := s.plansBound [] p g hNames Correlations.numbered_nil hPlanned
  have hGroups : Grouping.Numbered g.aggregates := by
    rw [grouping_planSource hPlanned]
    exact Grouping.numbered_ofStatement s
  have hCorrelations : q.scope.correlations = [] := by
    rw [(Planning.extends_project hProjected).1]
    exact correlations_planSource hPlanned
  have hPipeline := (hSource.project hGroups hNames hProjected).pipeline
  rw [hCorrelations] at hPipeline
  exact hPipeline

end

/-- Orders with wheels and their owners: variables in the pipeline of a join and through two levels
of subqueries. -/
def Statement.ownedOrdersWithWheels : Statement :=
  { ordersWithWheels with
    joins := [⟨"owners", some "p", .inner,
      some (.binary .equal (.column ⟨some "p", "Id", .int32⟩)
        (.column ⟨some "o", "Owner", .int32⟩)),
      []⟩] }

theorem Statement.bound_compile_ownedOrdersWithWheels :
    Undollared ownedOrdersWithWheels.pathNames ∧
      ∃ plan ctx, ownedOrdersWithWheels.compile true = .ok (plan, ctx) ∧ plan.Bound := by
  have hNames : Undollared ownedOrdersWithWheels.pathNames := by
    unfold Undollared
    decide
  obtain ⟨⟨plan, ctx⟩, hCompiled⟩ : ∃ r, ownedOrdersWithWheels.compile true = .ok r := ⟨_, rfl⟩
  exact ⟨hNames, plan, ctx, hCompiled, bound_compile hNames hCompiled⟩

end RelPipe
