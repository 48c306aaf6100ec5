import RelPipe.Proofs.Grouping.Entries
import RelPipe.Proofs.Planning.Nesting
import RelPipe.Proofs.Planning.Steps
import RelPipe.Proofs.Projection.Stages

/-!
The layout of a plan. The kinds of its stages can be read off the statement: two for each join, three
for each subquery with a signature of its own, then the conditions and groups, and last the stages
that shape the results. The pipelines of lookups are laid out the same way, at any depth.
-/

namespace RelPipe

set_option autoImplicit false

mutual

/-- The subqueries of an expression from left to right, without those of their own statements. -/
def Expression.subqueries : Expression → List Aggregate
  | .column _ | .property _ | .constant _ => []
  | .unary _ e => e.subqueries
  | .binary _ l r => l.subqueries ++ r.subqueries
  | .between t l h => t.subqueries ++ l.subqueries ++ h.subqueries
  | .member l cs => l.subqueries ++ Expression.subqueriesAll cs
  | .group _ es => Expression.subqueriesAll es
  | .call _ es => Expression.subqueriesAll es
  | .aggregate a => a.subqueries
termination_by structural e => e

def Expression.subqueriesAll : List Expression → List Aggregate
  | [] => []
  | e :: rest => e.subqueries ++ Expression.subqueriesAll rest
termination_by structural es => es

def Expression.subqueriesOption : Option Expression → List Aggregate
  | none => []
  | some e => e.subqueries
termination_by structural e => e

def Aggregate.subqueries : Aggregate → List Aggregate
  | ⟨_, target, none⟩ => Expression.subqueriesOption target
  | ⟨kind, target, some s⟩ => [⟨kind, target, some s⟩]
termination_by structural a => a

end

namespace Aggregate

def addFirst (kept : List Aggregate) (a : Aggregate) : List Aggregate :=
  if kept.any fun b => b.signature = a.signature then kept else kept ++ [a]

def firsts (as : List Aggregate) : List Aggregate := as.foldl addFirst []

end Aggregate

def JoinNode.subqueries (node : JoinNode) : List Aggregate :=
  Aggregate.firsts (node.condition.toList.flatMap Expression.subqueries)

def Projection.SortTarget.resolves : SortTarget → Bool
  | .nothing => false
  | _ => true

def Projection.SortTarget.isHelper : SortTarget → Bool
  | .helper _ => true
  | _ => false

namespace Statement

/-- The subqueries of a statement that are planned, without those of its join conditions. -/
def subqueries (s : Statement) : List Aggregate :=
  Aggregate.firsts (s.expressions.flatMap Expression.subqueries)

/-- Whether a statement has group keys, or aggregates over its documents. -/
def isGrouped (s : Statement) : Bool :=
  !s.groupBy.isEmpty || (s.operands.map (·.expression) ++ s.having.toList ++
    s.sorts.map (·.expression)).any fun e => !e.localAggregates.isEmpty

def sortTargets (s : Statement) : List Projection.SortTarget :=
  s.sorts.map fun key => s.outline.sortTarget (.ofStatement s) key.expression

def narrowingKinds (s : Statement) : List StageKind :=
  s.condition.toList.map (fun _ => .filter) ++ (if s.isGrouped then [.group] else []) ++
    s.having.toList.map fun _ => .filter

def sourceKinds (s : Statement) : List StageKind :=
  s.joinNodes.flatMap (fun _ => [.lookup, .unwind]) ++
    (s.subqueries.flatMap (fun _ => [.lookup, .unwind, .addFields]) ++ s.narrowingKinds)

def shapingKinds (s : Statement) : List StageKind :=
  .project :: ((if s.sortTargets.any (·.resolves) then [.sort] else []) ++
    (if s.sortTargets.any (·.isHelper) then [.project] else []) ++
    ((if 0 < s.skip.getD 0 then [.skip] else []) ++ if 0 < s.limit.getD 0 then [.limit] else []))

def stageKinds (s : Statement) : List StageKind := s.sourceKinds ++ s.shapingKinds

end Statement

/-- Stages of given kinds, none of which has an empty document for a body. -/
structure Stage.Fill (kinds : List StageKind) (stages : List Stage) : Prop where
  kinds : stages.map Stage.kind = kinds
  bodies : ∀ stage ∈ stages, stage.body ≠ .document []

mutual

/-- The stages of a statement up to the condition on its groups. -/
inductive SourceStages : Statement → List Stage → Prop where
  | intro {s : Statement} {joins subqueries narrowing : List Stage}
    (hJoins : JoinStages s.joinNodes joins)
    (hSubqueries : SubqueryStages 0 s.subqueries subqueries)
    (hNarrowing : Stage.Fill s.narrowingKinds narrowing) :
    SourceStages s (joins ++ (subqueries ++ narrowing))

/-- The stages of joins. The pipeline of each holds the subqueries of its condition and a filter. -/
inductive JoinStages : List JoinNode → List Stage → Prop where
  | nil : JoinStages [] []
  | cons {node : JoinNode} {nodes : List JoinNode} {field : String} {correlations : Correlations}
    {subqueries filter stages : List Stage}
    (hSubqueries : SubqueryStages 0 node.subqueries subqueries)
    (hFilter : Stage.Fill (node.condition.toList.map fun _ => .filter) filter)
    (hRest : JoinStages nodes stages) :
    JoinStages (node :: nodes)
      (⟨.lookup, .document (lookupDocument node.table field correlations
          ⟨node.table, subqueries ++ filter⟩)⟩ ::
        ⟨.unwind, .document (unwindDocument field (node.kind ≠ .inner))⟩ :: stages)

/-- The stages of subqueries, numbered from some number on. The pipeline of each is laid out like its
statement up to the condition on groups, and goes on with a group and a projection. -/
inductive SubqueryStages : Nat → List Aggregate → List Stage → Prop where
  | nil (n : Nat) : SubqueryStages n [] []
  | cons {n : Nat} {a : Aggregate} {as : List Aggregate} {t : Statement}
    {correlations : Correlations} {source stages : List Stage} {accumulator default : Value}
    (hStatement : a.statement = some t) (hSource : SourceStages t source)
    (hRest : SubqueryStages (n + 1) as stages) :
    SubqueryStages n (a :: as)
      (⟨.lookup, .document (lookupDocument t.table ("SubAgg" ++ Text.Numeral.ofNat n) correlations
          ⟨t.table, source ++ [⟨.group, .document [("_id", .null), ("agg", accumulator)]⟩,
            ⟨.project, .document [("value", a.kind.projection)]⟩]⟩)⟩ ::
        ⟨.unwind, .document (unwindDocument ("SubAgg" ++ Text.Numeral.ofNat n) true)⟩ ::
        ⟨.addFields, .document [("SubAgg" ++ Text.Numeral.ofNat n, default)]⟩ :: stages)

end

/-! The subqueries of a statement -/

namespace Expression

theorem subqueriesAll_eq (es : List Expression) : subqueriesAll es = es.flatMap subqueries := by
  induction es with
  | nil => rfl
  | cons e es ih => rw [subqueriesAll, ih, List.flatMap_cons]

theorem subqueries_eq {e : Expression}
    (h : ∀ kind target s, e ≠ .aggregate ⟨kind, target, some s⟩) :
    e.subqueries = e.localChildren.flatMap subqueries := by
  cases e with
  | aggregate a =>
    match a with
    | ⟨_, none, none⟩ => rfl
    | ⟨_, some target, none⟩ => exact (List.append_nil _).symm
    | ⟨_, _, some _⟩ => exact absurd rfl (h _ _ _)
  | _ => simp [subqueries, localChildren, children, subqueriesAll_eq]

/-- An expression is planned by planning its subqueries one after the other. -/
theorem planAll_eq_foldlM {caseSensitive : Bool} {es : List Expression}
    (h : ∀ e ∈ es, ∀ p, e.plan caseSensitive p =
      e.subqueries.foldlM (fun p a => a.plan caseSensitive p) p) (p : Planning) :
    planAll caseSensitive es p =
      (es.flatMap subqueries).foldlM (fun p a => a.plan caseSensitive p) p := by
  induction es generalizing p with
  | nil => rfl
  | cons e es ih =>
    rw [List.forall_mem_cons] at h
    rw [planAll, List.flatMap_cons, List.foldlM_append, h.1 p]
    congr 1
    funext q
    exact ih h.2 q

theorem plan_eq_foldlM (caseSensitive : Bool) (e : Expression) (p : Planning) :
    e.plan caseSensitive p = e.subqueries.foldlM (fun p a => a.plan caseSensitive p) p := by
  induction e using local_induction generalizing p with
  | step e ih =>
    by_cases hSubquery : ∃ kind target s, e = .aggregate ⟨kind, target, some s⟩
    · obtain ⟨kind, target, s, rfl⟩ := hSubquery
      change Aggregate.plan caseSensitive _ p = Except.bind (Aggregate.plan caseSensitive _ p) .ok
      cases Aggregate.plan caseSensitive ⟨kind, target, some s⟩ p <;> rfl
    · have hPlain : ∀ kind target s, e ≠ .aggregate ⟨kind, target, some s⟩ :=
        fun kind target s he => hSubquery ⟨kind, target, s, he⟩
      rw [plan_eq_planAll caseSensitive hPlain, planAll_eq_foldlM ih, subqueries_eq hPlain]

theorem hasSubquery_of_mem {e : Expression} {a : Aggregate} (h : a ∈ e.subqueries) :
    e.HasSubquery a ∧ ∃ t, a.statement = some t := by
  induction e using local_induction with
  | step e ih =>
    by_cases hSubquery : ∃ kind target s, e = .aggregate ⟨kind, target, some s⟩
    · obtain ⟨kind, target, s, rfl⟩ := hSubquery
      obtain rfl := List.mem_singleton.mp h
      exact ⟨.self _, s, rfl⟩
    · rw [subqueries_eq fun kind target s he => hSubquery ⟨kind, target, s, he⟩] at h
      obtain ⟨c, hc, h⟩ := List.mem_flatMap.mp h
      obtain ⟨hPart, hStatement⟩ := ih c hc h
      exact ⟨hasSubquery_iff.mpr (.inr ⟨c, hc, hPart⟩), hStatement⟩

end Expression

/-- A planning knows the subqueries of given signatures, in order. -/
def Planning.Lists (p : Planning) (kept : List Aggregate) : Prop :=
  p.scope.subqueries.map Prod.fst = kept.map Aggregate.signature

namespace Planning

theorem Lists.isSome_subqueryField? {p : Planning} {kept : List Aggregate} (h : p.Lists kept)
    (a : Aggregate) : (p.scope.subqueryField? a.signature).isSome =
      kept.any fun b => b.signature = a.signature := by
  have hKnown : ∀ entries : List (Signature × String), (entries.lookup a.signature).isSome =
      (entries.map Prod.fst).any fun signature => signature = a.signature := by
    intro entries
    induction entries with
    | nil => rfl
    | cons entry entries ih =>
      rw [List.lookup_cons, List.map_cons, List.any_cons, ← ih]
      by_cases hSame : entry.1 = a.signature
      · simp [hSame]
      · have hOther : (a.signature == entry.1) = false := beq_eq_false_iff_ne.mpr (Ne.symm hSame)
        simp [hSame, hOther]
  rw [Scope.subqueryField?, hKnown, h, List.any_map]
  rfl

theorem exists_plan_of_reduce {p q : Planning} {site : Site} {a : Aggregate}
    (h : p.reduce site a = .ok q) :
    ∃ accumulator, q.plan = ⟨p.plan.collection, p.plan.stages ++
      [⟨.group, .document [("_id", .null), ("agg", accumulator)]⟩,
        ⟨.project, .document [("value", a.kind.projection)]⟩]⟩ := by
  obtain ⟨_, accumulator, _, _, rfl⟩ := exists_of_reduce h
  refine ⟨accumulator, ?_⟩
  change (p.plan.add .group (.document [("_id", .null), ("agg", accumulator)])).add .project
    (.document [("value", a.kind.projection)]) = _
  rw [Plan.add_eq _ _ (List.cons_ne_nil _ _), Plan.add_eq _ _ (List.cons_ne_nil _ _),
    List.append_assoc]
  rfl

/-- Planning subqueries one after the other attaches the first of each signature. -/
theorem exists_of_foldlM {caseSensitive : Bool} {as kept : List Aggregate}
    (hStatements : ∀ a ∈ as, ∃ t, a.statement = some t ∧ ∀ cs q g,
      t.planSource caseSensitive cs = .ok (q, g) → SourceStages t q.plan.stages)
    {p q : Planning} (hLists : p.Lists kept)
    (h : as.foldlM (fun p a => a.plan caseSensitive p) p = .ok q) :
    ∃ added stages, as.foldl Aggregate.addFirst kept = kept ++ added ∧
      SubqueryStages kept.length added stages ∧
      q.plan = ⟨p.plan.collection, p.plan.stages ++ stages⟩ := by
  induction as generalizing kept p with
  | nil =>
    cases h
    exact ⟨[], [], (List.append_nil _).symm, .nil _, by rw [List.append_nil]⟩
  | cons a as ih =>
    rw [List.forall_mem_cons] at hStatements
    obtain ⟨⟨t, hStatement, hSource⟩, hStatements⟩ := hStatements
    obtain ⟨kind, target, _⟩ := a
    cases hStatement
    rw [List.foldlM_cons] at h
    obtain ⟨r, hFirst, hRest⟩ := exists_of_bind_eq_ok h
    -- The scope knows the signatures of `kept` and no others, so it skips what `addFirst` skips.
    obtain ⟨hKnown, rfl⟩ | ⟨hUnknown, inner, g, reduced, hPlanned, hReduced, rfl⟩ :=
      Aggregate.plan_subquery hFirst
    · rw [hLists.isSome_subqueryField?] at hKnown
      rw [List.foldl_cons, Aggregate.addFirst, if_pos hKnown]
      exact ih hStatements hLists hRest
    · have hNew : ¬ (kept.any fun b => b.signature = Aggregate.signature ⟨kind, target, some t⟩) =
          true := by
        rw [← hLists.isSome_subqueryField?, hUnknown]
        nofun
      have hAttached : (p.attachSubquery p.nextField ⟨kind, target, some t⟩ reduced g).Lists
          (kept ++ [⟨kind, target, some t⟩]) := by
        change (p.scope.subqueries ++ [_]).map Prod.fst = _
        rw [List.map_append, List.map_append, hLists]
        rfl
      obtain ⟨added, stages, hAdded, hStages, hPlan⟩ := ih hStatements hAttached hRest
      obtain ⟨accumulator, hPipeline⟩ := exists_plan_of_reduce hReduced
      have hField : p.nextField = "SubAgg" ++ Text.Numeral.ofNat kept.length := by
        rw [nextField, ← List.length_map Prod.fst, hLists, List.length_map]
      rw [List.length_append, List.length_singleton] at hStages
      rw [collection_attachSubquery, stages_attachSubquery, defaultDocument, hPipeline,
        Statement.collection_planSource hPlanned, hField, List.append_assoc] at hPlan
      rw [List.foldl_cons, Aggregate.addFirst, if_neg hNew, hAdded, List.append_assoc]
      exact ⟨_, _, rfl, .cons rfl (hSource _ _ _ hPlanned) hStages, hPlan⟩

theorem exists_of_planAll {caseSensitive : Bool} {es : List Expression}
    (hStatements : ∀ e ∈ es, ∀ a t, e.HasSubquery a → a.statement = some t → ∀ cs q g,
      t.planSource caseSensitive cs = .ok (q, g) → SourceStages t q.plan.stages)
    {p q : Planning} (hNone : p.scope.subqueries = [])
    (h : Expression.planAll caseSensitive es p = .ok q) :
    ∃ stages, SubqueryStages 0 (Aggregate.firsts (es.flatMap Expression.subqueries)) stages ∧
      q.plan = ⟨p.plan.collection, p.plan.stages ++ stages⟩ := by
  rw [Expression.planAll_eq_foldlM fun e _ => e.plan_eq_foldlM caseSensitive] at h
  have hLists : p.Lists [] := by
    rw [Lists, hNone]
    rfl
  have hKnown : ∀ a ∈ es.flatMap Expression.subqueries, ∃ t, a.statement = some t ∧ ∀ cs q g,
      t.planSource caseSensitive cs = .ok (q, g) → SourceStages t q.plan.stages := by
    intro a ha
    obtain ⟨e, he, ha⟩ := List.mem_flatMap.mp ha
    obtain ⟨hSubquery, t, ht⟩ := Expression.hasSubquery_of_mem ha
    exact ⟨t, ht, hStatements e he a t hSubquery ht⟩
  obtain ⟨added, stages, hAdded, hStages, hPlan⟩ := exists_of_foldlM hKnown hLists h
  rw [Aggregate.firsts, hAdded]
  exact ⟨stages, hStages, hPlan⟩

end Planning

/-! The stages of each part -/

namespace Stage.Fill

theorem nil : Fill [] [] := ⟨rfl, List.forall_mem_nil _⟩

theorem append {kinds others : List StageKind} {stages more : List Stage} (h : Fill kinds stages)
    (h' : Fill others more) : Fill (kinds ++ others) (stages ++ more) where
  kinds := by rw [List.map_append, h.kinds, h'.kinds]
  bodies := List.forall_mem_append.mpr ⟨h.bodies, h'.bodies⟩

theorem document {kind : StageKind} {body : Document} (h : body ≠ []) :
    Fill [kind] [⟨kind, .document body⟩] :=
  ⟨rfl, List.forall_mem_singleton.mpr fun hEmpty => h (Value.document.inj hEmpty)⟩

theorem paging (kind : StageKind) (n? : Option UInt64) :
    Fill (if 0 < n?.getD 0 then [kind] else []) (Stage.paging kind n?) := by
  cases n? with
  | none => exact nil
  | some n =>
    rw [Stage.paging, Option.getD_some]
    by_cases hZero : n = 0
    · subst hZero
      exact nil
    · rw [if_neg hZero, if_pos (UInt64.pos_iff_ne_zero.mpr hZero)]
      exact ⟨rfl, List.forall_mem_singleton.mpr (by simp [pagingValue])⟩

theorem sorting {order : Document} {sorts : Bool} (h : order.isEmpty = !sorts) :
    Fill (if sorts then [.sort] else []) (Stage.sorting order) := by
  cases order with
  | nil =>
    cases sorts with
    | false => exact nil
    | true => cases h
  | cons field fields =>
    cases sorts with
    | false => cases h
    | true => exact document (List.cons_ne_nil _ _)

end Stage.Fill

theorem Planning.exists_of_filter {p q : Planning} {site : Site} {condition : Option Expression}
    (h : p.filter site condition = .ok q) :
    ∃ stages, Stage.Fill (condition.toList.map fun _ => .filter) stages ∧
      q.plan = ⟨p.plan.collection, p.plan.stages ++ stages⟩ := by
  cases condition with
  | none =>
    cases h
    exact ⟨[], .nil, by rw [List.append_nil]⟩
  | some e =>
    obtain ⟨body, hBody, h⟩ := exists_of_bind_eq_ok h
    cases h
    have hNonempty := Site.filterDocument_ne_nil hBody
    exact ⟨_, .document hNonempty, p.plan.add_eq _ hNonempty⟩

theorem Grouping.isEmpty_ofStatement (s : Statement) :
    (ofStatement s).isEmpty = !s.isGrouped := by
  have hKeys : ∀ es, (keysFrom [] 0 es).isEmpty = es.isEmpty := by
    intro es
    cases es with
    | nil => rfl
    | cons e es =>
      have hFound := find?_keysFrom [] 0 (e :: es) e.signature
      cases hEntries : keysFrom [] 0 (e :: es) with
      | nil => simp [hEntries] at hFound
      | cons => rfl
  have hAggregates : ∀ as : List Aggregate, (as.foldl addAggregate []).isEmpty = as.isEmpty := by
    intro as
    cases as with
    | nil => rfl
    | cons a as =>
      have hFound := find?_foldl_addAggregate [] (a :: as) a.signature
      cases hEntries : (a :: as).foldl addAggregate [] with
      | nil => simp [hEntries] at hFound
      | cons => rfl
  have hNone : ∀ es : List Expression, (es.flatMap Expression.localAggregates).isEmpty =
      !es.any fun e => !e.localAggregates.isEmpty := by
    intro es
    induction es with
    | nil => rfl
    | cons e es ih =>
      rw [List.flatMap_cons, List.any_cons, Bool.not_or, Bool.not_not, ← ih]
      cases e.localAggregates <;> rfl
  rw [isEmpty, ofStatement, hKeys, hAggregates, hNone, Statement.isGrouped, Bool.not_or,
    Bool.not_not]

theorem Planning.exists_of_narrow_fill {p q : Planning} {caseSensitive : Bool} {s : Statement}
    {g : Grouping} (h : p.narrow caseSensitive s = .ok (q, g)) :
    ∃ stages, Stage.Fill s.narrowingKinds stages ∧
      q.plan = ⟨p.plan.collection, p.plan.stages ++ stages⟩ := by
  obtain ⟨rfl, filtered, grouped, hFiltered, hGrouped, hKept⟩ := exists_narrowed h
  obtain ⟨condition, hCondition, hPlan⟩ := exists_of_filter hFiltered
  obtain ⟨having, hHaving, hLast⟩ := exists_of_filter hKept
  have hGroup : ∃ stages, Stage.Fill (if s.isGrouped then [.group] else []) stages ∧
      grouped.plan = ⟨filtered.plan.collection, filtered.plan.stages ++ stages⟩ := by
    rw [Grouping.isEmpty_ofStatement] at hGrouped
    obtain ⟨hNone, rfl⟩ | ⟨hSome, body, hBody, rfl⟩ := hGrouped
    · rw [Bool.not_eq_true'] at hNone
      rw [hNone]
      exact ⟨[], .nil, by rw [List.append_nil]⟩
    · rw [Bool.not_eq_false'] at hSome
      rw [hSome]
      have hNonempty := Grouping.stageDocument_ne_nil hBody
      exact ⟨_, .document hNonempty, filtered.plan.add_eq _ hNonempty⟩
  obtain ⟨group, hGroup, hMiddle⟩ := hGroup
  refine ⟨_, (hCondition.append hGroup).append hHaving, ?_⟩
  rw [hLast, hMiddle, hPlan]
  simp only [List.append_assoc]

namespace JoinNode

/-- A join becomes a lookup, whose pipeline holds the subqueries of the condition, and a spread. -/
theorem exists_of_foldlM {caseSensitive : Bool} {nodes : List JoinNode}
    (hStatements : ∀ node ∈ nodes, ∀ e, node.condition = some e → ∀ a t, e.HasSubquery a →
      a.statement = some t → ∀ cs q g, t.planSource caseSensitive cs = .ok (q, g) →
        SourceStages t q.plan.stages) {p q : Planning}
    (h : nodes.foldlM (fun p n => n.planOne caseSensitive p) p = .ok q) :
    ∃ stages, JoinStages nodes stages ∧ q.plan = ⟨p.plan.collection, p.plan.stages ++ stages⟩ := by
  induction nodes generalizing p with
  | nil =>
    cases h
    exact ⟨[], .nil, by rw [List.append_nil]⟩
  | cons node nodes ih =>
    rw [List.forall_mem_cons] at hStatements
    rw [List.foldlM_cons] at h
    obtain ⟨one, hOne, hRest⟩ := exists_of_bind_eq_ok h
    obtain ⟨inner, joined, hJoined, rfl⟩ := exists_of_planOne hOne
    have hPlanned := hJoined.planned
    rw [Expression.planOption_eq] at hPlanned
    obtain ⟨subqueries, hSubqueries, hInner⟩ := Planning.exists_of_planAll
      (fun e he => hStatements.1 e (Option.mem_toList.mp he)) rfl hPlanned
    obtain ⟨filter, hFilter, hPlan⟩ := Planning.exists_of_filter hJoined.filtered
    obtain ⟨stages, hStages, hAll⟩ := ih hStatements.2 hRest
    have hCollection : (p.attachJoin node.table (node.fieldAt p) node.kind joined).plan.collection =
        p.plan.collection := by simp [Planning.attachJoin, Planning.add]
    rw [hInner] at hPlan
    rw [hCollection, Planning.stages_attachJoin, hPlan, List.append_assoc] at hAll
    exact ⟨_, .cons hSubqueries hFilter hStages, hAll⟩

end JoinNode

/-! The stages of a statement -/

/-- The stages of a statement up to the condition on its groups are laid out as it says, and so are
the pipelines of its lookups. -/
theorem Statement.sourceStages {caseSensitive : Bool} (s : Statement) {cs : Correlations}
    {q : Planning} {g : Grouping} (h : s.planSource caseSensitive cs = .ok (q, g)) :
    SourceStages s q.plan.stages := by
  induction s using Statement.holds_induction generalizing cs q g with
  | step s ih =>
    rw [planSource_eq] at h
    obtain ⟨joined, hJoined, h⟩ := exists_of_bind_eq_ok h
    obtain ⟨planned, hPlanned, hNarrow⟩ := exists_of_bind_eq_ok h
    -- The subqueries of join conditions are known in the pipelines of the joins only.
    have hNone : joined.scope.subqueries = [] := (JoinNode.planAll_scope s.joins hJoined).2
    rw [JoinNode.planAll_eq_foldlM] at hJoined
    obtain ⟨joins, hJoins, hFirst⟩ := JoinNode.exists_of_foldlM
      (fun node hNode e he a t ha ht _ _ _ => ih a t (.inr ⟨node, hNode, e, he, ha⟩) ht) hJoined
    obtain ⟨subqueries, hSubqueries, hSecond⟩ := Planning.exists_of_planAll
      (fun e he a t ha ht _ _ _ => ih a t (.inl ⟨e, he, ha⟩) ht) hNone hPlanned
    obtain ⟨narrowing, hNarrowing, hThird⟩ := Planning.exists_of_narrow_fill hNarrow
    have hStages : q.plan.stages = joins ++ (subqueries ++ narrowing) := by
      rw [hThird, hSecond, hFirst]
      exact List.append_assoc joins subqueries narrowing
    rw [hStages]
    exact .intro hJoins hSubqueries hNarrowing

theorem JoinStages.fill {nodes : List JoinNode} {stages : List Stage}
    (h : JoinStages nodes stages) :
    Stage.Fill (nodes.flatMap fun _ => [.lookup, .unwind]) stages := by
  induction nodes generalizing stages with
  | nil =>
    cases h
    exact .nil
  | cons node nodes ih =>
    cases h with
    | cons _ _ hRest =>
      have hLookup := Planning.lookupDocument_ne_nil
      exact (Stage.Fill.document (hLookup _ _ _ _)).append
        ((Stage.Fill.document (List.cons_ne_nil _ _)).append (ih hRest))

theorem SubqueryStages.fill {n : Nat} {as : List Aggregate} {stages : List Stage}
    (h : SubqueryStages n as stages) :
    Stage.Fill (as.flatMap fun _ => [.lookup, .unwind, .addFields]) stages := by
  induction as generalizing n stages with
  | nil =>
    cases h
    exact .nil
  | cons a as ih =>
    cases h with
    | cons _ _ hRest =>
      have hLookup := Planning.lookupDocument_ne_nil
      exact (Stage.Fill.document (hLookup _ _ _ _)).append
        ((Stage.Fill.document (List.cons_ne_nil _ _)).append
          ((Stage.Fill.document (List.cons_ne_nil _ _)).append (ih hRest)))

theorem SourceStages.fill {s : Statement} {stages : List Stage} (h : SourceStages s stages) :
    Stage.Fill s.sourceKinds stages := by
  cases h with
  | intro hJoins hSubqueries hNarrowing =>
    exact hJoins.fill.append (hSubqueries.fill.append hNarrowing)

namespace Projection

variable (p : Projection) (g : Grouping)

theorem isEmpty_sortEntries (index : Nat) (keys : List SortKey) :
    (p.sortEntries g index keys).isEmpty =
      !(keys.map fun key => p.sortTarget g key.expression).any (·.resolves) := by
  induction keys generalizing index with
  | nil => rfl
  | cons key keys ih =>
    rw [sortEntries, sortField?, List.map_cons, List.any_cons]
    cases p.sortTarget g key.expression with
    | field | helper => rfl
    | nothing => exact ih (index + 1)

theorem isEmpty_helpers (index : Nat) (keys : List SortKey) :
    (p.helpers g index keys).isEmpty =
      !(keys.map fun key => p.sortTarget g key.expression).any (·.isHelper) := by
  induction keys generalizing index with
  | nil => rfl
  | cons key keys ih =>
    rw [helpers, List.map_cons, List.any_cons]
    cases p.sortTarget g key.expression with
    | helper => rfl
    | field | nothing => exact ih (index + 1)

end Projection

theorem Fields.isEmpty_insertAll {α : Type} (pairs : List (String × α)) :
    (insertAll [] pairs).isEmpty = pairs.isEmpty := by
  cases pairs with
  | nil => rfl
  | cons pair pairs =>
    have hNonempty := insertAll_ne_nil (List.cons_ne_nil pair []) pairs
    exact List.isEmpty_eq_false_iff.mpr hNonempty

/-- The plan of a statement is laid out as the statement says. -/
theorem Statement.layout {s : Statement} {caseSensitive : Bool} {plan : Plan} {ctx : Context}
    (h : s.compile caseSensitive = .ok (plan, ctx)) :
    Stage.Fill s.stageKinds plan.stages ∧
      ∃ source shaping, plan.stages = source ++ shaping ∧ SourceStages s source ∧
        Stage.Fill s.shapingKinds shaping := by
  obtain ⟨⟨source, g⟩, hSource, h⟩ := exists_of_bind_eq_ok h
  obtain ⟨q, hProject, h⟩ := exists_of_bind_eq_ok h
  cases h
  obtain ⟨_, planned, _, _, hNarrow⟩ := s.exists_steps hSource
  obtain rfl : g = .ofStatement s := (Planning.exists_narrowed hNarrow).1
  obtain ⟨specs, helperSpecs, _, _, hPlan⟩ := Planning.exists_stages_of_project hProject
  have hStages := s.sourceStages hSource
  have hOrder : (s.order (.ofStatement s)).isEmpty = !s.sortTargets.any (·.resolves) :=
    (Fields.isEmpty_insertAll _).trans (Projection.isEmpty_sortEntries _ _ 0 s.sorts)
  have hKeeping : Stage.Fill (if s.sortTargets.any (·.isHelper) then [.project] else [])
      (s.keeping (.ofStatement s)) := by
    have hHelpers : (s.helpers (.ofStatement s)).isEmpty = !s.sortTargets.any (·.isHelper) :=
      Projection.isEmpty_helpers _ _ 0 s.sorts
    rw [keeping, hHelpers]
    cases s.sortTargets.any (·.isHelper) with
    | false => exact .nil
    | true => exact .document s.outline.final_ne_nil
  have hProjection : Stage.Fill [.project] [projectStage (specs ++ helperSpecs)] :=
    .document (Fields.insertAll_ne_nil (List.cons_ne_nil _ _) _)
  have hShaping := hProjection.append (((Stage.Fill.sorting hOrder).append hKeeping).append
    ((Stage.Fill.paging .skip s.skip).append (.paging .limit s.limit)))
  rw [hPlan]
  exact ⟨hStages.fill.append hShaping, _, _, rfl, hStages, hShaping⟩

def ownedProducts (table owner : String) : Expression :=
  .aggregate ⟨.count, none, some { Statement.empty with
    table := table
    aliasName := some "p"
    condition := some (.binary .equal (.column ⟨some "p", "Owner", .int32⟩)
      (.column ⟨some owner, "Owner", .int32⟩)) }⟩

/-- A page of the groups of orders by city, where the owners have some products but not too many. The
two subqueries differ in letter case only. -/
def ordersByCity : Statement :=
  { Statement.empty with
    table := "Orders"
    aliasName := some "o"
    joins := [⟨"Items", some "i", .inner, some (.binary .equal (.column ⟨some "i", "Order", .int32⟩)
      (.column ⟨some "o", "Id", .int32⟩)), []⟩]
    operands := [⟨.column ⟨some "o", "City", .string⟩, some "city"⟩,
      ⟨.aggregate ⟨.count, none, none⟩, some "number"⟩]
    condition := some (.group .and
      [.binary .greater (ownedProducts "Products" "o") (.constant (.int32 0)),
        .binary .less (ownedProducts "products" "O") (.constant (.int32 9))])
    groupBy := [.column ⟨some "o", "City", .string⟩]
    having := some (.binary .greater (.aggregate ⟨.count, none, none⟩) (.constant (.int32 1)))
    sorts := [⟨.column ⟨some "o", "City", .string⟩, .ascending⟩]
    skip := some 0
    limit := some 5 }

theorem layout_ordersByCity :
    ∃ plan ctx, ordersByCity.compile false = .ok (plan, ctx) ∧
      ordersByCity.stageKinds = [.lookup, .unwind, .lookup, .unwind, .addFields, .filter, .group,
        .filter, .project, .sort, .project, .limit] ∧
      Stage.Fill ordersByCity.stageKinds plan.stages ∧
      ∃ source shaping, plan.stages = source ++ shaping ∧ SourceStages ordersByCity source ∧
        Stage.Fill ordersByCity.shapingKinds shaping := by
  have hSome : (ordersByCity.compile false).toOption.isSome = true := by decide +kernel
  obtain ⟨⟨plan, ctx⟩, hPlan⟩ := Option.isSome_iff_exists.mp hSome
  have hCompiled := eq_ok_of_toOption hPlan
  exact ⟨plan, ctx, hCompiled, by decide +kernel, Statement.layout hCompiled⟩

end RelPipe
