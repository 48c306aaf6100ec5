import RelPipe.Proofs.Compile.WellFormed
import RelPipe.Proofs.Planning.Binding
import RelPipe.Proofs.Projection.Stages

/-!
What running a plan can fail with. Every stage of a plan is written as it should be, and so are the
stages of the pipelines in it: what remains are errors of expressions that depend on the documents,
patterns that are none and operators that are not known. A group key whose name starts like a
reference would make an operator of the keys, so the names of the statement must not.
-/

namespace RelPipe

set_option autoImplicit false

open Pipeline

/-! The stage that groups -/

theorem Grouping.standsAlone_keyValue (site : Site) (e : Expression) :
    Yields (keyValue site e) Value.StandsAlone := by
  unfold keyValue
  split
  · exact (site.forms _).value.map fun v hv => hv.single rfl rfl
  · exact (site.forms e).value

theorem AggregateKind.exists_accumulates {kind : AggregateKind} {input : Option Value} {v : Value}
    (hInput : ∀ i, input = some i → WellFormed i) (h : kind.accumulator input = .ok v) :
    ∃ i, Accumulates i v ∧ WellFormed i := by
  have hOne : kind.accumulator input = .ok (.single "$sum" (.int32 1)) →
      ∃ i, Accumulates i v ∧ WellFormed i := by
    intro hSum
    obtain rfl := Except.ok.inj (hSum.symm.trans h)
    exact ⟨.int32 1, ⟨"$sum", by decide, rfl⟩, .atom rfl⟩
  cases kind with
  | count | «exists» => exact hOne rfl
  | custom name => cases h
  | sum | avg | min | max =>
    cases input with
    | none => cases h
    | some i =>
      cases h
      exact ⟨i, ⟨_, by decide, rfl⟩, hInput i rfl⟩

theorem Grouping.formed_stageDocument {g : Grouping} {site : Site} {body : Document}
    (h : g.stageDocument site = .ok body) (hKeys : ∀ k ∈ g.keys, Text.dollar k.name = false) :
    Stage.Formed ⟨.group, .document body⟩ := by
  obtain ⟨keys, accumulators, hKeyFields, hAccumulators, rfl⟩ := exists_of_stageDocument h
  refine .group ?_ fun field hField => ?_
  · split
    · exact .atom rfl
    · have hPair : ∀ pair ∈ Fields.ofPairs keys, ∃ k ∈ g.keys, WritesKey site k pair :=
        fun pair hPair => exists_of_mem_of_forall₂ hKeyFields (Fields.mem_of_mem_ofPairs hPair)
      refine .document (fun pair hMem => ?_) fun pair hMem => ?_
      · obtain ⟨k, hk, hName, _⟩ := hPair pair hMem
        rw [hName]
        exact hKeys k hk
      · obtain ⟨k, _, _, hValue⟩ := hPair pair hMem
        exact (standsAlone_keyValue site k.expression _ hValue).wellFormed
  · obtain ⟨a, _, _, input, hInput, hValue⟩ := exists_of_mem_of_forall₂ hAccumulators hField
    refine AggregateKind.exists_accumulates (fun i hi => ?_) hValue
    subst hi
    cases ht : a.aggregate.target with
    | none =>
      rw [ht] at hInput
      cases hInput
    | some t =>
      rw [ht] at hInput
      obtain ⟨w, hw, hSome⟩ := exists_of_map_eq_ok hInput
      obtain rfl := Option.some.inj hSome
      exact ((site.forms t).value w hw).wellFormed

/-! The stages that shape documents -/

theorem Operand.StandsAlone.wellFormed_projected {o : Operand} (h : o.StandsAlone) :
    o.projected.StandsAlone := by
  cases o with
  | constant v =>
    cases v with
    | string s => exact h.render
    | _ => exact .operator rfl rfl (List.forall_mem_nil _)
  | _ => exact h.render

theorem Projection.standsAlone_sortValue (site : Site) (e : Expression) :
    Yields (sortValue site e) Value.StandsAlone := by
  unfold sortValue
  split
  · exact .ok (.string _)
  · exact (site.forms e).operand.map fun o ho => ho.wellFormed_projected

theorem Projection.Writes.wellFormed {site : Site} {field : String × Expression}
    {spec : String × Value} (h : Writes site field spec) : WellFormed spec.2 := by
  obtain ⟨_, o, ho, hSpec⟩ := h
  rw [hSpec]
  exact ((site.forms field.2).operand o ho).wellFormed_projected.wellFormed

theorem Projection.WritesHelper.wellFormed {site : Site} {field : String × Expression}
    {spec : String × Value} (h : WritesHelper site field spec) : WellFormed spec.2 := by
  obtain ⟨_, v, hv, hSpec⟩ := h
  have hValue := standsAlone_sortValue site field.2 v hv
  rw [hSpec]
  split
  · exact (hValue.single rfl rfl).wellFormed
  · exact hValue.wellFormed

theorem Projection.Arranges.formed {names : List String} {stage : Stage}
    (h : Arranges names stage) : stage.Formed := by
  cases h with
  | @sort order _ => exact .sort order
  | keep _ =>
    refine .project fun field hField hFlag => ?_
    obtain hMem | rfl := mem_of_mem_projectStage hField
    · obtain ⟨name, _, rfl⟩ := List.mem_map.mp hMem
      exact .atom rfl
    · exact .atom rfl
  | skip n => exact .skip (index?_pagingValue n)
  | limit n => exact .limit (index?_pagingValue n)

/-! Plans in the making -/

/-- The stages of a plan in the making are written as they should be, and its variables are bound
to well-formed expressions. -/
structure Planning.Formed (p : Planning) : Prop where
  stages : ∀ stage ∈ p.plan.stages, stage.Formed
  bindings : ∀ c ∈ p.scope.correlations, WellFormed c.value

namespace Planning

variable {p q inner : Planning} {caseSensitive : Bool}

theorem formed_start (table root : String) {cs : Correlations}
    (h : ∀ c ∈ cs, WellFormed c.value) : (Planning.start table root cs).Formed :=
  ⟨List.forall_mem_nil _, h⟩

theorem Formed.add (h : p.Formed) {kind : StageKind} {body : Document}
    (hStage : Stage.Formed ⟨kind, .document body⟩) : (p.add kind body).Formed where
  stages stage hMem := by
    obtain hMem | rfl := Plan.mem_stages_of_add hMem
    · exact h.stages stage hMem
    · exact hStage
  bindings := h.bindings

theorem Formed.filter (h : p.Formed) {site : Site} {condition : Option Expression}
    (hq : p.filter site condition = .ok q) : q.Formed := by
  cases condition with
  | none =>
    cases hq
    exact h
  | some e =>
    obtain ⟨body, hBody, hq⟩ := exists_of_bind_eq_ok hq
    cases hq
    rw [Site.filterDocument_eq_clauseOf] at hBody
    obtain ⟨f, hf, rfl⟩ := exists_of_map_eq_ok hBody
    exact h.add (.filter ((site.forms e).clause f hf))

theorem Formed.narrow (h : p.Formed) {s : Statement} (hNames : Undollared s.pathNames)
    {g : Grouping} (hq : p.narrow caseSensitive s = .ok (q, g)) : q.Formed := by
  obtain ⟨rfl, filtered, grouped, hFiltered, hGrouped, hKept⟩ := Planning.exists_narrowed hq
  have hFirst : filtered.Formed := h.filter hFiltered
  have hGroups : grouped.Formed := by
    obtain ⟨_, rfl⟩ | ⟨_, body, hBody, rfl⟩ := hGrouped
    · exact hFirst
    · -- A key is named for its column, so it looks like an operator only if the column does.
      refine hFirst.add (Grouping.formed_stageDocument hBody fun k hk => ?_)
      refine Grouping.dollar_of_mem_keys (fun ref hRef => ?_) hk
      have hExpression := Statement.mem_expressions.mpr (.inr (.inr (.inl hRef)))
      exact hNames _ (Statement.expression_subset hExpression (.head _))
  exact hGroups.filter hKept

theorem Formed.reduce (h : p.Formed) {site : Site} {a : Aggregate}
    (hq : p.reduce site a = .ok q) : q.Formed := by
  obtain ⟨input, accumulator, hInput, hAccumulator, rfl⟩ := exists_of_reduce hq
  have hWell : WellFormed input := by
    cases ht : a.aggregated? with
    | none =>
      rw [ht] at hInput
      cases hInput
      exact .atom rfl
    | some t =>
      rw [ht] at hInput
      exact ((site.forms t).value input hInput).wellFormed
  have hGroup : Stage.Formed ⟨.group, .document [("_id", .null), ("agg", accumulator)]⟩ := by
    refine .group (.atom rfl) (List.forall_mem_singleton.mpr ?_)
    refine AggregateKind.exists_accumulates (fun i hi => ?_) hAccumulator
    cases hi
    exact hWell
  have hProjection : a.kind.projection.StandsAlone := by
    cases a.kind with
    | «exists» => exact .apply rfl rfl (by simp)
    | _ => exact .string _
  refine (h.add hGroup).add (.project fun field hField _ => ?_)
  obtain rfl := List.mem_singleton.mp hField
  exact hProjection.wellFormed

theorem Formed.attachJoin (h : p.Formed) (hInner : inner.Formed) (table field : String)
    (kind : JoinKind) : (p.attachJoin table field kind inner).Formed := by
  have hLookup := h.add (.lookup table field hInner.bindings hInner.stages)
  have hUnwind := hLookup.add (.unwind field (kind ≠ .inner))
  exact ⟨hUnwind.stages, h.bindings⟩

theorem Formed.attachSubquery (h : p.Formed) (hInner : inner.Formed) (field : String)
    (a : Aggregate) (g : Grouping) : (p.attachSubquery field a inner g).Formed := by
  have hDefault : (emptyResult a.kind).StandsAlone := by cases a.kind <;> exact .atom rfl
  have hStage : Stage.Formed ⟨.addFields, .document [(field, .apply "$ifNull"
      [.string ("$" ++ field ++ ".value"), emptyResult a.kind])]⟩ := by
    refine .addFields (List.forall_mem_singleton.mpr (Value.StandsAlone.wellFormed ?_))
    exact .apply rfl rfl (by simp [hDefault])
  have hLookup := h.add (.lookup inner.plan.collection field hInner.bindings hInner.stages)
  have hUnwind := hLookup.add (.unwind field true)
  have hFields := hUnwind.add hStage
  exact ⟨hFields.stages, h.bindings⟩

theorem Formed.project (h : p.Formed) {site : Site} {s : Statement}
    (hq : p.project site s (OutputColumn.fieldNames s.operands) = .ok q) :
    ∀ stage ∈ q.plan.stages, stage.Formed := by
  obtain ⟨specs, helperSpecs, tail, hSpecs, hHelpers, hStages, hTail⟩ := exists_of_project hq
  intro stage hStage
  rw [hStages, List.mem_append, List.mem_cons] at hStage
  obtain hStage | rfl | hStage := hStage
  · exact h.stages stage hStage
  · refine .project fun field hField _ => ?_
    obtain hMem | rfl := mem_of_mem_projectStage hField
    · obtain hMem | hMem := List.mem_append.mp hMem
      · obtain ⟨output, _, hWrites⟩ := exists_of_mem_of_forall₂ hSpecs hMem
        exact hWrites.wellFormed
      · obtain ⟨helper, _, hWrites⟩ := exists_of_mem_of_forall₂ hHelpers hMem
        exact hWrites.wellFormed
    · exact .atom rfl
  · exact (hTail stage hStage).formed

end Planning

/-! Statements -/

theorem Correlations.ReadFrom.wellFormed {scope : Scope} {cs : Correlations}
    (h : cs.ReadFrom scope) : ∀ c ∈ cs, WellFormed c.value := by
  intro c hc
  obtain ⟨ref, _, hValue⟩ := h c hc
  rw [hValue]
  exact .string _

/-- The statement of a subquery is planned with stages that are written as they should be. -/
def Statement.PlansFormed (caseSensitive : Bool) (s : Statement) : Prop :=
  ∀ cs q g, Undollared s.pathNames → (∀ c ∈ cs, WellFormed c.value) →
    s.planSource caseSensitive cs = .ok (q, g) → q.Formed

section

variable {caseSensitive : Bool}

theorem Planning.Formed.attaches {p q : Planning} (h : p.Formed) {a : Aggregate}
    (hStatement : ∀ t, a.statement = some t → t.PlansFormed caseSensitive)
    (hNames : Undollared a.pathNames) (hStep : Attaches caseSensitive a p q) : q.Formed := by
  cases hStep with
  | attach hPlanned hReduced =>
    have hBindings := (readFrom_subqueryCorrelations (p := p) hNames).wellFormed
    have hInner := hStatement _ rfl _ _ _ (hNames.mono (Aggregate.statement_subset rfl))
      hBindings hPlanned
    exact h.attachSubquery (hInner.reduce hReduced) _ _ _

theorem Planning.Formed.attachesAll {p q : Planning} (h : p.Formed) {wanted : Aggregate → Prop}
    (hStatement : ∀ a, wanted a → ∀ t, a.statement = some t → t.PlansFormed caseSensitive)
    (hNames : ∀ a, wanted a → Undollared a.pathNames)
    (hSteps : AttachesAll caseSensitive wanted p q) : q.Formed := by
  induction hSteps with
  | refl => exact h
  | tail _ hStep ih =>
    obtain ⟨a, ha, hAttaches⟩ := hStep
    exact ih.attaches (hStatement a ha) (hNames a ha) hAttaches

theorem Planning.Formed.planOne {p q : Planning} (h : p.Formed) {node : JoinNode}
    (hNames : ∀ e, node.condition = some e → Undollared e.pathNames)
    (hStatement : ∀ e, node.condition = some e → ∀ a, e.HasSubquery a → ∀ t,
      a.statement = some t → t.PlansFormed caseSensitive)
    (hOne : node.planOne caseSensitive p = .ok q) : q.Formed := by
  obtain ⟨inner, joined, hJoined, rfl⟩ := JoinNode.exists_of_planOne hOne
  have hStart : (node.startAt p).Formed :=
    ⟨List.forall_mem_nil _, (readFrom_joinCorrelations hNames).wellFormed⟩
  have hInner : inner.Formed := by
    have hPlanned := hJoined.planned
    cases hCondition : node.condition with
    | none =>
      rw [hCondition] at hPlanned
      cases hPlanned
      exact hStart
    | some e =>
      rw [hCondition] at hPlanned
      refine hStart.attachesAll (hStatement e hCondition) (fun a ha => ?_)
        (e.attachesAll_plan hPlanned)
      exact (hNames e hCondition).mono ha.pathNames_subset
  exact h.attachJoin (hInner.filter hJoined.filtered) _ _ _

theorem Planning.Formed.plansAll {p q : Planning} (h : p.Formed) {s : Statement}
    (hNames : Undollared s.pathNames)
    (hStatement : ∀ a t, s.Holds a → a.statement = some t → t.PlansFormed caseSensitive)
    (hSteps : JoinNode.PlansAll caseSensitive s.joins p q) : q.Formed := by
  induction hSteps with
  | refl => exact h
  | tail _ hStep ih =>
    obtain ⟨node, hNode, hOne⟩ := hStep
    refine ih.planOne (fun e he => ?_) (fun e he a ha t => ?_) hOne
    · exact hNames.mono (Statement.joinCondition_subset hNode he)
    · exact hStatement a t (.inr ⟨node, hNode, e, he, ha⟩)

theorem Statement.plansFormed (s : Statement) : s.PlansFormed caseSensitive := by
  -- The induction is on the subqueries of the statement, those of its join conditions included.
  induction s using Statement.holds_induction with
  | step s ih =>
    intro cs q g hNames hBindings h
    obtain ⟨joined, planned, hJoins, hSubqueries, hNarrow⟩ := s.exists_steps h
    have hJoined : joined.Formed :=
      (Planning.formed_start s.table _ hBindings).plansAll hNames ih hJoins
    have hPlanned : planned.Formed := by
      refine hJoined.attachesAll (fun a ha t => ih a t (.inl ha)) ?_ hSubqueries
      rintro a ⟨e, he, ha⟩
      exact hNames.mono (List.Subset.trans ha.pathNames_subset (Statement.expression_subset he))
    exact hPlanned.narrow hNames hNarrow

/-- The stages of a compiled plan are written as they should be. Running it fails only at an
expression that one of them evaluates, and only with an error that depends on the documents, on a
pattern or on an operator that is not known. -/
theorem Statement.formed_compile {s : Statement} (hNames : Undollared s.pathNames) {plan : Plan}
    {ctx : Context} (h : s.compile caseSensitive = .ok (plan, ctx)) :
    (∀ stage ∈ plan.stages, stage.Formed) ∧ ∀ catalog : Catalog,
      FailsOnly (fun e => e.Residual ∧ ∃ stage ∈ plan.stages, ∃ v env,
        stage.Evaluates v ∧ evaluate env v = .error e) (catalog.runPlan plan) := by
  obtain ⟨⟨p, g⟩, hPlanned, h⟩ := exists_of_bind_eq_ok h
  obtain ⟨q, hProjected, h⟩ := exists_of_bind_eq_ok h
  cases h
  have hSource : p.Formed := s.plansFormed [] p g hNames (List.forall_mem_nil _) hPlanned
  have hStages := hSource.project hProjected
  refine ⟨hStages, fun catalog => failsOnly_runStages (fun stage hStage documents => ?_) _⟩
  refine ((hStages stage hStage).failsOnly_runStage catalog [] documents).mono ?_
  rintro e ⟨v, env, hEvaluates, hWell, he⟩
  exact ⟨failsOnly_evaluate hWell env e he, stage, hStage, v, env, hEvaluates, he⟩

end

def Statement.takingsPerItem : Statement :=
  { Statement.empty with
    table := "Shops"
    aliasName := some "s"
    operands := [⟨.binary .divide (.column ⟨some "s", "Takings", .int32⟩)
      (.aggregate ⟨.count, none, some { Statement.empty with
        table := "Items"
        aliasName := some "i"
        condition := some (.binary .equal (.column ⟨some "i", "Shop", .int32⟩)
          (.column ⟨some "s", "Id", .int32⟩)) }⟩), some "perItem"⟩] }

def Pipeline.Catalog.emptyShop : Catalog :=
  [("Shops", [[("Id", .int32 1), ("Takings", .int32 10)]])]

theorem Statement.formed_compile_takingsPerItem :
    Undollared takingsPerItem.pathNames ∧ ∃ plan ctx e,
      takingsPerItem.compile true = .ok (plan, ctx) ∧ (∀ stage ∈ plan.stages, stage.Formed) ∧
      Catalog.emptyShop.runPlan plan = .error e ∧ e.Residual ∧ ∃ stage ∈ plan.stages, ∃ v env,
        stage.Evaluates v ∧ evaluate env v = .error e := by
  have hNames : Undollared takingsPerItem.pathNames := by
    unfold Undollared
    decide
  obtain ⟨⟨plan, ctx⟩, hCompiled⟩ : ∃ r, takingsPerItem.compile true = .ok r := ⟨_, rfl⟩
  have hRun : Catalog.emptyShop.runPlan plan =
      .error (.invalidArgument "$divide" .divisionByZero) := by
    cases hCompiled
    decide
  obtain ⟨hFormed, hFails⟩ := formed_compile hNames hCompiled
  exact ⟨hNames, plan, ctx, _, hCompiled, hFormed, hRun, hFails _ _ hRun⟩

end RelPipe
