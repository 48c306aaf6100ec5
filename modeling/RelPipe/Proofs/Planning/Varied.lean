import RelPipe.Proofs.Compile.Varied
import RelPipe.Proofs.Grouping.Entries
import RelPipe.Proofs.Grouping.Readable
import RelPipe.Proofs.Joins.Simulation
import RelPipe.Proofs.Planning.Nesting
import RelPipe.Proofs.Planning.Projecting
import RelPipe.Proofs.Subqueries.Reduction

/-!
Planning in two runs of the compiler. Each step of the second run follows the step of the first: the
scopes are the same, and the stages are the same but for the values in them. So the pipelines of
joins and subqueries follow each other at any depth, and with them the plan of a whole statement.
-/

namespace RelPipe

set_option autoImplicit false

variable {caseSensitive caseSensitive' : Bool} (m : Variation caseSensitive caseSensitive')

def Plan.vary (p : Plan) : Plan :=
  ⟨p.collection, p.stages.map fun stage => ⟨stage.kind, m.value stage.body⟩⟩

mutual

def Context.requalify (f : String → String) : Context → Context
  | ⟨collection, scope, grouping, outputNames, subqueries⟩ =>
    ⟨collection, scope, grouping.requalify f, outputNames, Context.requalifyAll f subqueries⟩
termination_by structural ctx => ctx

def Context.requalifyAll (f : String → String) : List (String × Context) → List (String × Context)
  | [] => []
  | (name, ctx) :: rest => (name, ctx.requalify f) :: Context.requalifyAll f rest
termination_by structural contexts => contexts

end

mutual

theorem Context.requalify_id (ctx : Context) : ctx.requalify id = ctx := by
  match ctx with
  | ⟨collection, scope, grouping, outputNames, subqueries⟩ =>
    rw [Context.requalify, grouping.requalify_id, Context.requalifyAll_id subqueries]
termination_by structural ctx

theorem Context.requalifyAll_id (contexts : List (String × Context)) :
    Context.requalifyAll id contexts = contexts := by
  match contexts with
  | [] => rfl
  | (name, ctx) :: contexts =>
    rw [Context.requalifyAll, ctx.requalify_id, Context.requalifyAll_id contexts]
termination_by structural contexts

end

theorem Context.requalifyAll_append (f : String → String)
    (contexts others : List (String × Context)) :
    requalifyAll f (contexts ++ others) = requalifyAll f contexts ++ requalifyAll f others := by
  induction contexts with
  | nil => rfl
  | cons entry contexts ih =>
    obtain ⟨name, ctx⟩ := entry
    simp only [List.cons_append, requalifyAll, ih]

/-- What the second run has planned when the first is at a given point. Variables are bound to
paths in both runs. -/
structure Planning.Varies (p p' : Planning) : Prop where
  scope : p'.scope = p.scope
  plan : p'.plan = p.plan.vary m
  subqueries : p'.subqueries = Context.requalifyAll m.qualifier p.subqueries
  bindings : ∀ c ∈ p.scope.correlations, c.value.isAtom = true

/-! The stage that groups -/

namespace Grouping

variable {m}

/-- Only a key that is named for its column can have the name of an operator. -/
theorem eq_column_of_mem_keys {s : Statement} {k : GroupKey} (hk : k ∈ (ofStatement s).keys)
    (h : k.name = "$regexMatch") : ∃ ref, k.expression = .column ref := by
  obtain hNil | ⟨_, others, position, hName⟩ := mem_keysFrom hk
  · cases hNil
  · by_contra hColumn
    have hPlain : Text.dollar k.name = false := by
      rw [hName]
      exact dollar_keyName (fun ref hRef => absurd ⟨ref, hRef⟩ hColumn) others position
    rw [h] at hPlain
    revert hPlain
    decide

theorem keyValue_of_ne (site : Site) {e : Expression}
    (h : ∀ operand rest, e ≠ .call (.standard .toInt) (operand :: rest)) :
    keyValue site e = site.value e := by
  unfold keyValue
  split
  · exact absurd rfl (h _ _)
  · rfl

theorem follows_keyValue (scope : Scope) (e : Expression) :
    m.Follows m.Turns (keyValue (m.before scope .empty) e)
      (keyValue (m.after scope .empty) (e.requalify m.qualifier)) := by
  by_cases hCast : ∃ operand rest, e = .call (.standard .toInt) (operand :: rest)
  · obtain ⟨operand, rest, rfl⟩ := hCast
    refine (m.compiles scope .empty operand).value.map ?_
    rintro v _ rfl
    exact (Variation.value_single (by decide) v).symm
  · have hOther : ∀ operand rest, e ≠ .call (.standard .toInt) (operand :: rest) :=
      fun operand rest he => hCast ⟨operand, rest, he⟩
    have hOther' : ∀ operand rest,
        e.requalify m.qualifier ≠ .call (.standard .toInt) (operand :: rest) := by
      intro operand rest he
      cases e with
      | call function es =>
        obtain ⟨rfl, hRest⟩ := Expression.call.inj he
        cases es with
        | nil => cases hRest
        | cons e es => exact hOther e es rfl
      | _ => cases he
    rw [keyValue_of_ne _ hOther, keyValue_of_ne _ hOther']
    exact (m.compiles scope .empty e).value

theorem follows_keyFields (scope : Scope) {keys : List GroupKey}
    (hKeys : ∀ k ∈ keys, k.name = "$regexMatch" → ∃ ref, k.expression = .column ref) :
    m.Follows (Document.Varies m) (keyFields (m.before scope .empty) keys)
      (keyFields (m.after scope .empty) (keys.map (GroupKey.requalify m.qualifier))) := by
  induction keys with
  | nil => exact .ok .nil
  | cons k keys ih =>
    obtain ⟨hKey, hRest⟩ := List.forall_mem_cons.mp hKeys
    by_cases hName : k.name = "$regexMatch"
    · -- The key is a column, and its value is a path.
      obtain ⟨name, e⟩ := k
      obtain ⟨ref, rfl⟩ := hKey hName
      have hPath : ∀ {site : Site} {ref : ColumnRef}, site.grouping = .empty →
          keyValue site (.column ref) = .ok (.string (site.scope.columnPath ref)) := by
        intro site ref hEmpty
        rw [keyValue_of_ne site (fun _ _ he => by cases he), Site.value, Site.compile, hEmpty]
        rfl
      rw [List.map_cons, keyFields, keyFields, hPath rfl, GroupKey.requalify, Expression.requalify,
        hPath rfl]
      dsimp only [Variation.before, Variation.after]
      rw [scope.columnPath_requalify m.keepsCaseless]
      refine (ih hRest).bind fun d d' hd => .ok ⟨?_, ?_⟩
      · rw [List.map_cons, ← hd.fields, m.value_atom rfl]
      · refine List.forall_mem_cons.mpr ⟨?_, hd.searches⟩
        intro _ body hBody
        cases hBody
    · exact (follows_keyValue scope k.expression).bind fun _ _ hv =>
        (ih hRest).bind fun _ _ hd => .ok (.cons hName hv hd)

theorem follows_input (scope : Scope) (target : Option Expression) :
    m.Follows (Option.Rel m.Turns) (input (m.before scope .empty) target)
      (input (m.after scope .empty) (target.map (Expression.requalify m.qualifier))) := by
  cases target with
  | none => exact .ok .none
  | some e => exact (m.compiles scope .empty e).value.map fun _ _ hv => .some hv

end Grouping

theorem AggregateKind.follows_accumulator (kind : AggregateKind) {v? v?' : Option Value}
    (h : Option.Rel m.Turns v? v?') :
    m.Follows m.Turns (kind.accumulator v?) (kind.accumulator v?') := by
  have hOne : m.Turns (.single "$sum" (.int32 1)) (.single "$sum" (.int32 1)) := by
    rw [Variation.Turns, Variation.value_single (by decide), m.value_atom rfl]
  cases kind with
  | count | «exists» => exact .ok hOne
  | custom name => exact .error rfl
  | sum | avg | min | max =>
    cases h with
    | none => exact .error rfl
    | some hv => exact .ok (m.congruence.single (by decide) hv)

namespace Grouping

variable {m}

theorem follows_accumulatorFields (scope : Scope) {aggregates : List GroupAggregate}
    (hNames : ∀ a ∈ aggregates, a.name ≠ "$regexMatch") :
    m.Follows (Document.Varies m) (accumulatorFields (m.before scope .empty) aggregates)
      (accumulatorFields (m.after scope .empty)
        (aggregates.map (GroupAggregate.requalify m.qualifier))) := by
  induction aggregates with
  | nil => exact .ok .nil
  | cons a aggregates ih =>
    obtain ⟨hName, hNames⟩ := List.forall_mem_cons.mp hNames
    rw [List.map_cons, accumulatorFields, accumulatorFields, GroupAggregate.requalify,
      Aggregate.kind_requalify, Aggregate.target_requalify]
    refine (follows_input scope a.aggregate.target).bind fun _ _ hInput => ?_
    refine (a.aggregate.kind.follows_accumulator m hInput).bind fun _ _ hv => ?_
    exact (ih hNames).bind fun _ _ hd => .ok (.cons hName hv hd)

end Grouping

theorem Fields.insert_map {α β : Type} (f : α → β) (fields : Fields α) (name : String) (value : α) :
    insert (fields.map fun e => (e.1, f e.2)) name (f value) =
      (insert fields name value).map fun e => (e.1, f e.2) := by
  induction fields with
  | nil => rfl
  | cons e fields ih =>
    obtain ⟨key, old⟩ := e
    simp only [List.map_cons, insert]
    split
    · rfl
    · rw [ih, List.map_cons]

theorem Fields.insertAll_map {α β : Type} (f : α → β) (fields pairs : Fields α) :
    insertAll (fields.map fun e => (e.1, f e.2)) (pairs.map fun e => (e.1, f e.2)) =
      (insertAll fields pairs).map fun e => (e.1, f e.2) := by
  induction pairs generalizing fields with
  | nil => rfl
  | cons pair pairs ih =>
    simp only [insertAll, List.map_cons, List.foldl_cons]
    rw [insert_map]
    exact ih _

theorem Grouping.follows_stageDocument (scope : Scope) (s : Statement) :
    m.Follows (Document.Varies m) ((ofStatement s).stageDocument (m.before scope .empty))
      (((ofStatement s).requalify m.qualifier).stageDocument (m.after scope .empty)) := by
  have hNames : ∀ a ∈ (ofStatement s).aggregates, a.name ≠ "$regexMatch" := by
    intro a ha hName
    obtain ⟨index, _, hAgg⟩ := numbered_ofStatement s a ha
    have hHead := congrArg (fun name => name.toList.head?) (hName.symm.trans hAgg)
    simp at hHead
  have hKeys : ∀ k ∈ (ofStatement s).keys, k.name = "$regexMatch" →
      ∃ ref, k.expression = .column ref := fun k hk => eq_column_of_mem_keys hk
  refine (follows_keyFields scope hKeys).bind fun keys keys' hd => ?_
  refine (follows_accumulatorFields scope hNames).bind fun _ _ hAccumulators => .ok ?_
  refine .cons (by decide) ?_ hAccumulators
  cases keys with
  | nil =>
    obtain rfl : keys' = [] := hd.fields
    exact (m.value_atom rfl).symm
  | cons key keys =>
    obtain rfl := hd.fields
    refine Document.Varies.turns ⟨Fields.insertAll_map m.value [] (key :: keys), ?_⟩
    exact fun e he => hd.searches e (Fields.mem_of_mem_ofPairs he)

/-! Steps -/

theorem Plan.vary_add (p : Plan) (kind : StageKind) {d d' : Document} (h : Document.Varies m d d') :
    (p.vary m).add kind (.document d') = (p.add kind (.document d)).vary m := by
  cases d with
  | nil =>
    obtain rfl : d' = [] := h.fields
    rfl
  | cons e d =>
    have hNonempty : d' ≠ [] := by
      rw [h.fields]
      exact List.cons_ne_nil _ _
    rw [Plan.add_eq _ _ hNonempty, Plan.add_eq _ _ (List.cons_ne_nil e d), vary, vary,
      List.map_append, List.map_singleton, h.turns]

/-- The pipeline of a lookup is turned stage by stage. Its variables stay as they are. -/
theorem Document.varies_lookup (collection field : String) {cs : Correlations}
    (hBindings : ∀ c ∈ cs, c.value.isAtom = true) (plan : Plan) :
    Document.Varies m (lookupDocument collection field cs plan)
      (lookupDocument collection field cs (plan.vary m)) := by
  have hLet : Document.Varies m cs.toDocument cs.toDocument := by
    constructor
    · conv_lhs => rw [← List.map_id cs.toDocument]
      refine List.map_congr_left fun e he => ?_
      obtain ⟨c, hc, rfl⟩ := List.mem_map.mp he
      exact Prod.ext rfl (m.value_atom (hBindings c hc)).symm
    · rintro e he - body hBody
      obtain ⟨c, hc, rfl⟩ := List.mem_map.mp he
      have hAtom := hBindings c hc
      rw [show c.value = .document body from hBody] at hAtom
      cases hAtom
  have hStages : m.Turns (.array (plan.pipeline.map .document))
      (.array ((plan.vary m).pipeline.map .document)) := by
    rw [Variation.Turns, m.value_array]
    refine congrArg Value.array ?_
    simp only [Plan.pipeline, Plan.vary, List.map_map]
    refine List.map_congr_left fun stage _ => ?_
    have hOperator : stage.kind.operator ≠ "$regexMatch" := by
      cases stage.kind <;> decide
    exact (Variation.value_single hOperator stage.body).symm
  have hText : ∀ s : String, m.Turns (.string s) (.string s) := fun s => (m.value_atom rfl).symm
  unfold lookupDocument
  split
  · exact .cons (by decide) (hText _) (.cons (by decide) (hText _) (.single (by decide) hStages))
  · exact .cons (by decide) (hText _) (.cons (by decide) (hText _)
      (.cons (by decide) hLet.turns (.single (by decide) hStages)))

theorem Document.varies_unwind (field : String) (keepEmpty : Bool) :
    Document.Varies m (unwindDocument field keepEmpty) (unwindDocument field keepEmpty) :=
  .cons (by decide) (m.value_atom rfl).symm (.single (by decide) (m.value_atom rfl).symm)

namespace Planning.Varies

variable {m} {p p' inner inner' : Planning}

theorem start (table root : String) {cs : Correlations} (h : ∀ c ∈ cs, c.value.isAtom = true) :
    (Planning.start table root cs).Varies m (Planning.start table root cs) :=
  ⟨rfl, rfl, rfl, h⟩

theorem add (h : p.Varies m p') (kind : StageKind) {d d' : Document}
    (hBody : Document.Varies m d d') : (p.add kind d).Varies m (p'.add kind d') where
  scope := h.scope
  plan := by
    dsimp only [Planning.add]
    rw [h.plan, Plan.vary_add m _ kind hBody]
  subqueries := h.subqueries
  bindings := h.bindings

theorem filter (h : p.Varies m p') (scope : Scope) (g : Grouping) (condition : Option Expression) :
    m.Follows (Planning.Varies m) (p.filter (m.before scope g) condition)
      (p'.filter (m.after scope g) (condition.map (Expression.requalify m.qualifier))) := by
  cases condition with
  | none => exact .ok h
  | some e =>
    change Correspond _ _ (((m.before scope g).filterDocument e).bind _)
      (((m.after scope g).filterDocument (e.requalify m.qualifier)).bind _)
    rw [Site.filterDocument_eq_clauseOf, Site.filterDocument_eq_clauseOf]
    have hBody := (m.compiles scope g e).clause.map fun _ _ hf => hf.toDocument
    exact hBody.bind fun _ _ hd => .ok (h.add .filter hd)

theorem narrow (h : p.Varies m p') (s : Statement) :
    m.Follows (fun r r' => r.1.Varies m r'.1 ∧ r'.2 = r.2.requalify m.qualifier)
      (p.narrow caseSensitive s) (p'.narrow caseSensitive' (s.requalify m.qualifier)) := by
  have hGrouping := Grouping.ofStatement_requalify m.keepsCaseless s
  have hSite : p'.site caseSensitive' = m.after p.scope .empty := by
    rw [Planning.site, h.scope]
    rfl
  have hCondition : (s.requalify m.qualifier).condition =
      s.condition.map (Expression.requalify m.qualifier) := by rw [Statement.requalify_eq]
  have hHaving : (s.requalify m.qualifier).having =
      s.having.map (Expression.requalify m.qualifier) := by rw [Statement.requalify_eq]
  unfold Planning.narrow
  dsimp only
  rw [hSite, hCondition, hHaving]
  refine (h.filter p.scope .empty s.condition).bind fun filtered filtered' hFiltered => ?_
  rw [hGrouping, Grouping.isEmpty_requalify]
  have hKept : ∀ {q q' : Planning}, q.Varies m q' →
      m.Follows (fun r r' => r.1.Varies m r'.1 ∧ r'.2 = r.2.requalify m.qualifier)
        ((q.filter (m.before p.scope (.ofStatement s)) s.having).bind fun q =>
          .ok (q, Grouping.ofStatement s))
        ((q'.filter (m.after p.scope (.ofStatement s))
          (s.having.map (Expression.requalify m.qualifier))).bind fun q' =>
            .ok (q', (Grouping.ofStatement s).requalify m.qualifier)) := by
    intro q q' hq
    exact (hq.filter p.scope (.ofStatement s) s.having).bind fun _ _ hKept => .ok ⟨hKept, rfl⟩
  split
  · exact hKept hFiltered
  · exact (Grouping.follows_stageDocument m p.scope s).bind fun _ _ hd =>
      hKept (hFiltered.add .group hd)

theorem reduce (h : p.Varies m p') (g : Grouping) (a : Aggregate) :
    m.Follows (Planning.Varies m) (p.reduce (m.before p.scope g) a)
      (p'.reduce (m.after p.scope g) (a.requalify m.qualifier)) := by
  have hTarget : (a.requalify m.qualifier).target.or ((a.requalify m.qualifier).statement.bind
      fun s => s.operands.head?.map (·.expression)) =
        a.aggregated?.map (Expression.requalify m.qualifier) := by
    rw [Aggregate.aggregated?, a.target_requalify, a.statement_requalify]
    cases a.target with
    | some e => rfl
    | none =>
      cases a.statement with
      | none => rfl
      | some s =>
        rw [Option.map_some, Option.bind_some, Statement.requalify_eq]
        cases hOperands : s.operands <;> simp [hOperands]
  have hResult : m.Turns a.kind.projection a.kind.projection := by
    cases a.kind with
    | «exists» =>
      rw [Variation.Turns, AggregateKind.projection, Variation.value_apply]
      simp only [List.map_cons, List.map_nil, m.value_atom (v := .string _) rfl,
        m.value_atom (v := .int32 _) rfl]
    | _ => exact (m.value_atom rfl).symm
  have hReduced : ∀ {v v' : Value}, m.Turns v v' → m.Follows (Planning.Varies m)
      ((a.kind.accumulator (some v)).bind fun accumulator =>
        .ok ((p.add .group [("_id", .null), ("agg", accumulator)]).add .project
          [("value", a.kind.projection)]))
      ((a.kind.accumulator (some v')).bind fun accumulator =>
        .ok ((p'.add .group [("_id", .null), ("agg", accumulator)]).add .project
          [("value", a.kind.projection)])) := by
    intro v v' hv
    refine (a.kind.follows_accumulator m (.some hv)).bind fun _ _ hAccumulator => .ok ?_
    refine (h.add .group ?_).add .project (.single (by decide) hResult)
    exact .cons (by decide) (m.value_atom rfl).symm (.single (by decide) hAccumulator)
  unfold Planning.reduce
  dsimp only
  rw [hTarget, a.kind_requalify, ← Aggregate.aggregated?]
  cases a.aggregated? with
  | none => exact hReduced (m.value_atom rfl).symm
  | some target => exact (m.compiles p.scope g target).value.bind fun _ _ hv => hReduced hv

theorem lookup (h : inner.Varies m inner') (collection field : String) :
    Document.Varies m (lookupDocument collection field inner.scope.correlations inner.plan)
      (lookupDocument collection field inner'.scope.correlations inner'.plan) := by
  rw [h.scope, h.plan]
  exact Document.varies_lookup m collection field h.bindings inner.plan

theorem attachJoin (h : p.Varies m p') (hInner : inner.Varies m inner') (table field : String)
    (kind : JoinKind) :
    (p.attachJoin table field kind inner).Varies m (p'.attachJoin table field kind inner') := by
  have hStages := (h.add .lookup (hInner.lookup table field)).add .unwind
    (Document.varies_unwind m field (kind ≠ .inner))
  exact ⟨congrArg (·.registerAlias field field) h.scope, hStages.plan, hInner.subqueries,
    h.bindings⟩

theorem attachSubquery (h : p.Varies m p') (hInner : inner.Varies m inner') {field : String}
    (hField : field ≠ "$regexMatch") (a : Aggregate) (g : Grouping) :
    (p.attachSubquery field a inner g).Varies m
      (p'.attachSubquery field (a.requalify m.qualifier) inner' (g.requalify m.qualifier)) := by
  have hDefault : m.Turns
      (.apply "$ifNull" [.string ("$" ++ field ++ ".value"), emptyResult a.kind])
      (.apply "$ifNull" [.string ("$" ++ field ++ ".value"), emptyResult a.kind]) := by
    have hEmpty : m.value (emptyResult a.kind) = emptyResult a.kind := by
      cases a.kind <;> exact m.value_atom rfl
    rw [Variation.Turns, Variation.value_apply]
    simp only [List.map_cons, List.map_nil, m.value_atom (v := .string _) rfl, hEmpty]
  have hCollection : inner'.plan.collection = inner.plan.collection := by
    rw [hInner.plan]
    rfl
  have hStages := ((h.add .lookup (hInner.lookup inner.plan.collection field)).add .unwind
    (Document.varies_unwind m field true)).add .addFields (.single hField hDefault)
  refine ⟨?_, ?_, ?_, h.bindings⟩
  · dsimp only [Planning.attachSubquery, Planning.add]
    rw [h.scope, a.signature_requalify m.keepsCaseless]
  · dsimp only [Planning.attachSubquery]
    rw [a.kind_requalify, hCollection]
    exact hStages.plan
  · dsimp only [Planning.attachSubquery, Planning.add]
    rw [h.subqueries, hCollection, hInner.scope, hInner.subqueries, Context.requalifyAll_append]
    rfl

end Planning.Varies

/-! Statements -/

/-- The statement is planned alike in both runs, given variables that are bound to paths. -/
def Statement.PlansVaried (s : Statement) : Prop :=
  ∀ cs : Correlations, (∀ c ∈ cs, c.value.isAtom = true) →
    m.Follows (fun r r' => r.1.Varies m r'.1 ∧ r'.2 = r.2.requalify m.qualifier)
      (s.planSource caseSensitive cs) ((s.requalify m.qualifier).planSource caseSensitive' cs)

theorem Correlations.isAtom_of_mem_bindColumns {wanted : String → Bool} {path : ColumnRef → String}
    {refs : List ColumnRef} {c : Correlation} (h : c ∈ bindColumns wanted path [] refs) :
    c.value.isAtom = true := by
  obtain hNil | ⟨_, _, _, _, _, _, hValue⟩ := mem_bindColumns h
  · cases hNil
  · rw [hValue]
    rfl

theorem Aggregate.plan_eq (caseSensitive : Bool) (kind : AggregateKind) (target : Option Expression)
    (s : Statement) (p : Planning) :
    Aggregate.plan caseSensitive ⟨kind, target, some s⟩ p =
      if (p.scope.subqueryField? (signature ⟨kind, target, some s⟩)).isSome then .ok p
      else
        match kind with
        | .custom name => .error (.unsupportedAggregate name)
        | _ => (s.planSource caseSensitive (p.subqueryCorrelations ⟨kind, target, some s⟩)).bind
            fun (inner, g) => (inner.reduce ⟨inner.scope, g, caseSensitive⟩
              ⟨kind, target, some s⟩).bind fun reduced =>
                .ok (p.attachSubquery p.nextField ⟨kind, target, some s⟩ reduced g) := by
  rw [Aggregate.plan.eq_def]
  cases kind <;> rfl

theorem Planning.scope_congr {p p' : Planning} (h : p'.scope = p.scope) :
    p'.subqueryCorrelations = p.subqueryCorrelations ∧
      p'.joinCorrelations = p.joinCorrelations ∧ p'.nextField = p.nextField := by
  refine ⟨?_, ?_, ?_⟩
  · funext a
    rw [subqueryCorrelations, subqueryCorrelations, h]
  · funext field condition
    rw [joinCorrelations, joinCorrelations, h]
  · rw [nextField, nextField, h]

variable {m}

theorem Planning.nextField_ne (p : Planning) : p.nextField ≠ "$regexMatch" := by
  intro h
  have hHead := congrArg (fun name => name.toList.head?) h
  simp [nextField] at hHead

theorem Aggregate.follows_plan {kind : AggregateKind} {target : Option Expression} {s : Statement}
    (hs : s.PlansVaried m) {p p' : Planning} (h : p.Varies m p') :
    m.Follows (Planning.Varies m) (Aggregate.plan caseSensitive ⟨kind, target, some s⟩ p)
      (Aggregate.plan caseSensitive'
        (Aggregate.requalify m.qualifier ⟨kind, target, some s⟩) p') := by
  have hSignature := Aggregate.signature_requalify m.keepsCaseless ⟨kind, target, some s⟩
  have hCorrelations := p.subqueryCorrelations_requalify m.keepsCaseless ⟨kind, target, some s⟩
  obtain ⟨hSubqueries, _, hField⟩ := Planning.scope_congr h.scope
  rw [Aggregate.requalify, Statement.requalifyOption] at hSignature hCorrelations ⊢
  rw [plan_eq, plan_eq, h.scope, hSignature, hSubqueries, hCorrelations, hField]
  split
  · exact .ok h
  · have hBindings : ∀ c ∈ p.subqueryCorrelations ⟨kind, target, some s⟩,
        c.value.isAtom = true := by
      intro c hc
      rw [Planning.subqueryCorrelations_eq] at hc
      exact Correlations.isAtom_of_mem_bindColumns hc
    have hPlanned := hs _ hBindings
    cases kind with
    | custom name => exact .error rfl
    | _ =>
      refine hPlanned.bind ?_
      rintro ⟨inner, g⟩ ⟨inner', _⟩ ⟨hInner, rfl⟩
      dsimp only
      rw [hInner.scope]
      exact (hInner.reduce g _).bind fun _ _ hReduced =>
        .ok (h.attachSubquery hReduced p.nextField_ne _ g)

theorem Expression.localChildren_requalify (f : String → String) (e : Expression) :
    (e.requalify f).localChildren = e.localChildren.map (requalify f) := by
  match e with
  | .member l cs => simp [requalify, localChildren, children, requalifyAll_eq]
  | .group op es => simp [requalify, localChildren, children, requalifyAll_eq]
  | .call function es => simp [requalify, localChildren, children, requalifyAll_eq]
  | .aggregate ⟨kind, none, none⟩ => rfl
  | .aggregate ⟨kind, some target, none⟩ => rfl
  | .aggregate ⟨kind, target, some s⟩ => rfl
  | .column c | .property name | .constant c | .unary op e | .binary op l r | .between t l h => rfl

theorem Expression.follows_planAll {es : List Expression}
    (hs : ∀ e ∈ es, ∀ {p p' : Planning}, p.Varies m p' → m.Follows (Planning.Varies m)
      (e.plan caseSensitive p) ((e.requalify m.qualifier).plan caseSensitive' p'))
    {p p' : Planning} (h : p.Varies m p') :
    m.Follows (Planning.Varies m) (Expression.planAll caseSensitive es p)
      (Expression.planAll caseSensitive' (es.map (Expression.requalify m.qualifier)) p') := by
  induction es generalizing p p' with
  | nil => exact .ok h
  | cons e es ih =>
    obtain ⟨hHead, hTail⟩ := List.forall_mem_cons.mp hs
    rw [List.map_cons, planAll, planAll]
    exact (hHead h).bind fun _ _ hq => ih hTail hq

theorem Expression.follows_plan (e : Expression)
    (hs : ∀ a t, e.HasSubquery a → a.statement = some t → t.PlansVaried m)
    {p p' : Planning} (h : p.Varies m p') :
    m.Follows (Planning.Varies m) (e.plan caseSensitive p)
      ((e.requalify m.qualifier).plan caseSensitive' p') := by
  induction e using Expression.local_induction generalizing p p' with
  | step e ih =>
    by_cases hSubquery : ∃ kind target s, e = .aggregate ⟨kind, target, some s⟩
    · obtain ⟨kind, target, s, rfl⟩ := hSubquery
      exact Aggregate.follows_plan (hs _ s (.self _) rfl) h
    · have hPlain : ∀ kind target s, e ≠ .aggregate ⟨kind, target, some s⟩ :=
        fun kind target s he => hSubquery ⟨kind, target, s, he⟩
      have hPlain' : ∀ kind target s,
          e.requalify m.qualifier ≠ .aggregate ⟨kind, target, some s⟩ := by
        intro kind target s he
        match e with
        | .aggregate ⟨_, _, none⟩ => cases he
        | .aggregate ⟨_, _, some _⟩ => exact hPlain _ _ _ rfl
      rw [plan_eq_planAll _ hPlain, plan_eq_planAll _ hPlain', localChildren_requalify]
      refine follows_planAll (fun c hc p p' h => ih c hc (fun a t ha => ?_) h) h
      exact hs a t (Expression.hasSubquery_iff.mpr (.inr ⟨c, hc, ha⟩))

theorem JoinNode.follows_planOne (node : JoinNode)
    (hs : ∀ e, node.condition = some e → ∀ a t, e.HasSubquery a → a.statement = some t →
      t.PlansVaried m) {p p' : Planning} (h : p.Varies m p') :
    m.Follows (Planning.Varies m) (node.planOne caseSensitive p)
      ((node.requalify m.qualifier).planOne caseSensitive' p') := by
  obtain ⟨_, hCorrelations, _⟩ := Planning.scope_congr h.scope
  have hField : (node.requalify m.qualifier).fieldAt p' = node.fieldAt p := by
    rw [JoinNode.requalify_eq, fieldAt, fieldAt, h.plan, Plan.vary, List.length_map]
  have hStart : (node.startAt p).Varies m ((node.requalify m.qualifier).startAt p') := by
    have hBindings : ∀ c ∈ p.joinCorrelations (node.fieldAt p) node.condition,
        c.value.isAtom = true := by
      intro c hc
      rw [Planning.joinCorrelations_eq] at hc
      exact Correlations.isAtom_of_mem_bindColumns hc
    have hJoin := p.joinCorrelations_requalify m.keepsCaseless (node.fieldAt p) node.condition
    rw [Expression.requalifyOption_eq] at hJoin
    rw [startAt, startAt, hField, hCorrelations, JoinNode.requalify_eq]
    dsimp only
    rw [hJoin, h.subqueries]
    exact ⟨rfl, rfl, rfl, hBindings⟩
  have hPlanned : m.Follows (Planning.Varies m)
      (Expression.planOption caseSensitive node.condition (node.startAt p))
      (Expression.planOption caseSensitive' (node.condition.map (Expression.requalify m.qualifier))
        ((node.requalify m.qualifier).startAt p')) := by
    cases hCondition : node.condition with
    | none => exact .ok hStart
    | some e => exact e.follows_plan (hs e hCondition) hStart
  rw [planOne, planOne, hField]
  rw [JoinNode.requalify_eq] at hPlanned ⊢
  refine hPlanned.bind fun inner inner' hInner => ?_
  have hSite : inner'.site caseSensitive' = m.after inner.scope .empty := by
    rw [Planning.site, hInner.scope]
    rfl
  rw [hSite]
  exact (hInner.filter inner.scope .empty node.condition).bind fun _ _ hJoined =>
    .ok (h.attachJoin hJoined _ _ _)

theorem JoinNode.follows_foldlM {nodes : List JoinNode}
    (hs : ∀ node ∈ nodes, ∀ e, node.condition = some e → ∀ a t, e.HasSubquery a →
      a.statement = some t → t.PlansVaried m) {p p' : Planning} (h : p.Varies m p') :
    m.Follows (Planning.Varies m) (nodes.foldlM (fun p n => n.planOne caseSensitive p) p)
      ((nodes.map (JoinNode.requalify m.qualifier)).foldlM
        (fun p n => n.planOne caseSensitive' p) p') := by
  induction nodes generalizing p p' with
  | nil => exact .ok h
  | cons node nodes ih =>
    obtain ⟨hHead, hTail⟩ := List.forall_mem_cons.mp hs
    rw [List.map_cons, List.foldlM_cons, List.foldlM_cons]
    exact (node.follows_planOne hHead h).bind fun _ _ hq => ih hTail hq

/-- Every statement is planned alike in both runs. -/
theorem Statement.plansVaried (s : Statement) : s.PlansVaried m := by
  -- The induction is on the subqueries of the statement, those of its join conditions included.
  induction s using Statement.holds_induction with
  | step s ih =>
    intro cs hBindings
    have hStart := Planning.Varies.start (m := m) s.table (s.aliasName.getD "") hBindings
    have hConditions : ∀ node ∈ JoinNode.preorder s.joins, ∀ e, node.condition = some e → ∀ a t,
        e.HasSubquery a → a.statement = some t → t.PlansVaried m :=
      fun node hNode e he a t ha => ih a t (.inr ⟨node, hNode, e, he, ha⟩)
    have hJoins := JoinNode.follows_foldlM hConditions hStart
    rw [← JoinNode.preorder_requalifyAll] at hJoins
    have hNames : (s.requalify m.qualifier).table = s.table ∧
        (s.requalify m.qualifier).aliasName = s.aliasName ∧
        (s.requalify m.qualifier).joins = JoinNode.requalifyAll m.qualifier s.joins := by
      rw [Statement.requalify_eq, JoinNode.requalifyAll_eq]
      exact ⟨rfl, rfl, rfl⟩
    rw [planSource_eq, planSource_eq, expressions_requalify, hNames.1, hNames.2.1, hNames.2.2,
      JoinNode.planAll_eq_foldlM, JoinNode.planAll_eq_foldlM]
    refine hJoins.bind fun _ _ hJoined => ?_
    refine Correspond.bind (R := Planning.Varies m) ?_ fun _ _ hPlanned => hPlanned.narrow s
    refine Expression.follows_planAll (fun e he p p' h => ?_) hJoined
    exact e.follows_plan (fun a t ha => ih a t (.inl ⟨e, he, ha⟩)) h

end RelPipe
