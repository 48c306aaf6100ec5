import Mathlib.Logic.Relation
import RelPipe.Proofs.Joins.Simulation
import RelPipe.Proofs.Subqueries.Attachment

/-!
Planning as a sequence of steps. Each step attaches a join or a subquery that is not known yet, and
nothing else happens before the condition of a statement is planned. What every step preserves
holds of the whole plan.
-/

namespace RelPipe

set_option autoImplicit false

open Relation

/-- A subquery that is not known is planned on its own and attached. -/
inductive Planning.Attaches (caseSensitive : Bool) : Aggregate → Planning → Planning → Prop where
  | attach {kind : AggregateKind} {target : Option Expression} {s : Statement}
    {p inner reduced : Planning} {g : Grouping}
    (hPlanned : s.planSource caseSensitive (p.subqueryCorrelations ⟨kind, target, some s⟩) =
      .ok (inner, g))
    (hReduced : inner.reduce ⟨inner.scope, g, caseSensitive⟩ ⟨kind, target, some s⟩ =
      .ok reduced) :
    Attaches caseSensitive ⟨kind, target, some s⟩ p
      (p.attachSubquery p.nextField ⟨kind, target, some s⟩ reduced g)

/-- Some of the wanted subqueries are attached, one after the other. -/
def Planning.AttachesAll (caseSensitive : Bool) (wanted : Aggregate → Prop) :
    Planning → Planning → Prop :=
  ReflTransGen fun p q => ∃ a, wanted a ∧ Attaches caseSensitive a p q

theorem Planning.AttachesAll.mono {caseSensitive : Bool} {wanted wanted' : Aggregate → Prop}
    (hWanted : ∀ a, wanted a → wanted' a) {p q : Planning}
    (h : AttachesAll caseSensitive wanted p q) : AttachesAll caseSensitive wanted' p q := by
  refine ReflTransGen.mono ?_ p q h
  rintro _ _ ⟨a, ha, hStep⟩
  exact ⟨a, hWanted a ha, hStep⟩

theorem Expression.attachesAll_planAll {caseSensitive : Bool} {es : List Expression}
    (h : ∀ e ∈ es, ∀ p q, e.plan caseSensitive p = .ok q →
      Planning.AttachesAll caseSensitive e.HasSubquery p q) {p q : Planning}
    (hPlanned : Expression.planAll caseSensitive es p = .ok q) :
    Planning.AttachesAll caseSensitive (fun a => ∃ e ∈ es, e.HasSubquery a) p q := by
  induction es generalizing p with
  | nil =>
    cases hPlanned
    exact .refl
  | cons e es ih =>
    obtain ⟨hHead, hTail⟩ := List.forall_mem_cons.mp h
    obtain ⟨r, hFirst, hRest⟩ := exists_of_bind_eq_ok hPlanned
    refine ReflTransGen.trans ((hHead p r hFirst).mono ?_) ((ih hTail hRest).mono ?_)
    · exact fun a ha => ⟨e, List.mem_cons_self, ha⟩
    · rintro a ⟨c, hc, ha⟩
      exact ⟨c, List.mem_cons_of_mem e hc, ha⟩

theorem Expression.attachesAll_plan {caseSensitive : Bool} (e : Expression) {p q : Planning}
    (h : e.plan caseSensitive p = .ok q) :
    Planning.AttachesAll caseSensitive e.HasSubquery p q := by
  induction e using Expression.local_induction generalizing p q with
  | step e ih =>
    by_cases hSubquery : ∃ kind target s, e = .aggregate ⟨kind, target, some s⟩
    · obtain ⟨kind, target, s, rfl⟩ := hSubquery
      obtain ⟨_, rfl⟩ | ⟨_, inner, g, reduced, hPlanned, hReduced, rfl⟩ :=
        Aggregate.plan_subquery h
      · exact .refl
      · exact .single ⟨_, .self _, .attach hPlanned hReduced⟩
    · rw [Expression.plan_eq_planAll caseSensitive
        (fun kind target s he => hSubquery ⟨kind, target, s, he⟩) p] at h
      refine (Expression.attachesAll_planAll (fun c hc p q h => ih c hc h) h).mono ?_
      exact fun a ha => Expression.hasSubquery_iff.mpr (.inr ha)

/-- The joins of a forest are planned one after the other. -/
def JoinNode.PlansAll (caseSensitive : Bool) (ns : List JoinNode) : Planning → Planning → Prop :=
  ReflTransGen fun p q => ∃ node ∈ preorder ns, node.planOne caseSensitive p = .ok q

theorem JoinNode.plansAll_of_foldlM {caseSensitive : Bool} {ns : List JoinNode} :
    ∀ {nodes : List JoinNode}, (∀ node ∈ nodes, node ∈ preorder ns) → ∀ {p q : Planning},
      nodes.foldlM (fun p n => n.planOne caseSensitive p) p = .ok q →
        PlansAll caseSensitive ns p q := by
  intro nodes hNodes p q h
  induction nodes generalizing p with
  | nil =>
    cases h
    exact .refl
  | cons node nodes ih =>
    obtain ⟨hFirst, hRest⟩ := List.forall_mem_cons.mp hNodes
    rw [List.foldlM_cons] at h
    obtain ⟨one, hOne, h⟩ := exists_of_bind_eq_ok h
    exact .head ⟨node, hFirst, hOne⟩ (ih hRest h)

theorem JoinNode.plansAll_of_planAll {caseSensitive : Bool} {ns : List JoinNode} {p q : Planning}
    (h : JoinNode.planAll caseSensitive ns p = .ok q) : PlansAll caseSensitive ns p q := by
  rw [planAll_eq_foldlM] at h
  exact plansAll_of_foldlM (fun _ hNode => hNode) h

/-- The three parts of planning a statement: its joins, its subqueries, and the stages from its
condition on. -/
theorem Statement.exists_steps {caseSensitive : Bool} {s : Statement} {cs : Correlations}
    {q : Planning} {g : Grouping} (h : s.planSource caseSensitive cs = .ok (q, g)) :
    ∃ joined planned : Planning,
      JoinNode.PlansAll caseSensitive s.joins (.start s.table (s.aliasName.getD "") cs) joined ∧
      Planning.AttachesAll caseSensitive s.HasSubquery joined planned ∧
      planned.narrow caseSensitive s = .ok (q, g) := by
  rw [Statement.planSource_eq] at h
  obtain ⟨joined, hJoined, h⟩ := exists_of_bind_eq_ok h
  obtain ⟨planned, hPlanned, hNarrow⟩ := exists_of_bind_eq_ok h
  have hSteps := Expression.attachesAll_planAll (fun e _ p q h => e.attachesAll_plan h) hPlanned
  exact ⟨joined, planned, JoinNode.plansAll_of_planAll hJoined, hSteps, hNarrow⟩

/-! The stages of each part -/

theorem Planning.stages_attachJoin (p : Planning) (table field : String) (kind : JoinKind)
    (inner : Planning) :
    (p.attachJoin table field kind inner).plan.stages = p.plan.stages ++
      [⟨.lookup, .document (lookupDocument table field inner.scope.correlations inner.plan)⟩,
        ⟨.unwind, .document (unwindDocument field (kind ≠ .inner))⟩] := by
  dsimp only [attachJoin, add]
  rw [Plan.stages_add _ _ (by simp [unwindDocument]),
    Plan.stages_add _ _ (lookupDocument_ne_nil _ _ _ _), List.append_assoc]
  rfl

theorem Site.filterDocument_ne_nil {site : Site} {e : Expression} {body : Document}
    (h : site.filterDocument e = .ok body) : body ≠ [] := by
  rw [filterDocument_eq_clauseOf] at h
  obtain ⟨f, _, rfl⟩ := exists_of_map_eq_ok h
  exact f.toDocument_ne_nil

theorem Planning.stages_filter {p q : Planning} {site : Site} {condition : Option Expression}
    (h : p.filter site condition = .ok q) :
    q.scope = p.scope ∧
      (condition = none ∧ q.plan.stages = p.plan.stages ∨
        ∃ e body, condition = some e ∧ site.filterDocument e = .ok body ∧
          q.plan.stages = p.plan.stages ++ [⟨.filter, .document body⟩]) := by
  cases condition with
  | none =>
    cases h
    exact ⟨rfl, .inl ⟨rfl, rfl⟩⟩
  | some e =>
    obtain ⟨body, hBody, h⟩ := exists_of_bind_eq_ok h
    cases h
    exact ⟨rfl, .inr ⟨e, body, rfl, hBody,
      p.plan.stages_add _ (Site.filterDocument_ne_nil hBody)⟩⟩

/-- The stages from the condition of a statement on: the condition, the groups if there are any, and
the condition on them. -/
theorem Planning.exists_narrowed {p q : Planning} {caseSensitive : Bool} {s : Statement}
    {g : Grouping} (h : p.narrow caseSensitive s = .ok (q, g)) :
    g = Grouping.ofStatement s ∧ ∃ filtered grouped : Planning,
      p.filter (p.site caseSensitive) s.condition = .ok filtered ∧
      (g.isEmpty = true ∧ grouped = filtered ∨
        g.isEmpty = false ∧ ∃ body, g.stageDocument (p.site caseSensitive) = .ok body ∧
          grouped = filtered.add .group body) ∧
      grouped.filter ⟨p.scope, g, caseSensitive⟩ s.having = .ok q := by
  obtain ⟨filtered, hFiltered, h⟩ := exists_of_bind_eq_ok h
  dsimp only at h
  split at h
  · rename_i hNone
    obtain ⟨kept, hKept, hPair⟩ := exists_of_map_eq_ok h
    cases hPair
    exact ⟨rfl, filtered, filtered, hFiltered, .inl ⟨hNone, rfl⟩, hKept⟩
  · rename_i hSome
    obtain ⟨body, hBody, h⟩ := exists_of_bind_eq_ok h
    obtain ⟨kept, hKept, hPair⟩ := exists_of_map_eq_ok h
    cases hPair
    exact ⟨rfl, filtered, filtered.add .group body, hFiltered,
      .inr ⟨Bool.eq_false_iff.mpr hSome, body, hBody, rfl⟩, hKept⟩

end RelPipe
