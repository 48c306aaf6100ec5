import RelPipe.Proofs.Compile.Lacking
import RelPipe.Proofs.Grouping.Entries
import RelPipe.Proofs.Planning.Nesting
import RelPipe.Proofs.Planning.Projecting
import RelPipe.Proofs.Planning.Steps

/-!
Which subqueries are planned before they are compiled. A statement plans the subqueries of its
expressions and of its join conditions before it compiles any of these, so none of them is found
missing. The target that a subquery is given from outside is compiled with the scope of the nested
statement, which plans it only if it has a subquery of the same signature itself.
-/

namespace RelPipe

set_option autoImplicit false

/-- A subquery stands in the target of another, and the statement that the target is computed in
has none of its signature. -/
def Aggregate.Strays (b a : Aggregate) : Prop :=
  ∃ t s, b.target = some t ∧ b.statement = some s ∧ t.HasSubquery a ∧ a.statement ≠ none ∧
    ∀ c, s.HasSubquery c → c.signature ≠ a.signature

/-- A subquery strays from its target somewhere in a statement. -/
def Statement.Strays (s : Statement) (a : Aggregate) : Prop := ∃ b, s.Nests b ∧ b.Strays a

theorem Aggregate.statement_ne_none_of_signature {a c : Aggregate}
    (h : c.signature = a.signature) (ha : a.statement ≠ none) : c.statement ≠ none := by
  obtain ⟨_, _, s⟩ := a
  obtain ⟨_, _, t⟩ := c
  rintro rfl
  cases s with
  | none => exact ha rfl
  | some s =>
    simp [signature, Expression.signature, Expression.normalized, normalized,
      Statement.normalizedOption] at h

section

variable {caseSensitive : Bool} {P : Aggregate → Prop}

/-- The subqueries of a planned statement are known where its expressions are compiled. -/
theorem Statement.not_lacks {s : Statement} {cs : Correlations} {q : Planning} {g : Grouping}
    (h : s.planSource caseSensitive cs = .ok (q, g)) {a : Aggregate} (ha : s.HasSubquery a)
    (hStatement : a.statement ≠ none) : q.scope.subqueryField? a.signature ≠ none := by
  obtain ⟨joined, p, _, hAdds, hNarrow⟩ := Statement.exists_of_planSource h
  rw [(Planning.extends_narrow hNarrow).2]
  exact Option.isSome_iff_ne_none.mp (hAdds.known a ha hStatement)

theorem AggregateKind.lacksOnly_accumulator (kind : AggregateKind) (input : Option Value) :
    LacksOnly P (kind.accumulator input) := by
  cases kind <;> cases input <;> first | exact .ok _ | exact .error (by simp)

theorem Planning.lacksOnly_filter {p : Planning} {site : Site} {condition : Option Expression}
    (h : ∀ e, condition = some e → site.LacksOnly P e) : LacksOnly P (p.filter site condition) := by
  cases condition with
  | none => exact .ok p
  | some e =>
    refine .bind ?_ fun body _ => .ok _
    rw [Site.filterDocument_eq_clauseOf]
    exact (h e rfl).clause.map _

theorem Grouping.lacksOnly_stageDocument {g : Grouping} {site : Site}
    (hKeys : ∀ k ∈ g.keys, LacksOnly P (keyValue site k.expression))
    (hAggregates : ∀ a ∈ g.aggregates, ∀ t, a.aggregate.target = some t → site.LacksOnly P t) :
    LacksOnly P (g.stageDocument site) := by
  have hKeyFields : ∀ keys : List GroupKey, (∀ k ∈ keys, LacksOnly P (keyValue site k.expression)) →
      LacksOnly P (keyFields site keys) := by
    intro keys hKeys
    induction keys with
    | nil => exact .ok []
    | cons k keys ih =>
      obtain ⟨hFirst, hRest⟩ := List.forall_mem_cons.mp hKeys
      exact hFirst.bind fun _ _ => (ih hRest).bind fun _ _ => .ok _
  have hAccumulators : ∀ aggregates : List GroupAggregate,
      (∀ a ∈ aggregates, ∀ t, a.aggregate.target = some t → site.LacksOnly P t) →
        LacksOnly P (accumulatorFields site aggregates) := by
    intro aggregates hAggregates
    induction aggregates with
    | nil => exact .ok []
    | cons a aggregates ih =>
      obtain ⟨hFirst, hRest⟩ := List.forall_mem_cons.mp hAggregates
      have hInput : LacksOnly P (input site a.aggregate.target) := by
        cases ht : a.aggregate.target with
        | none => exact .ok none
        | some t => exact ((hFirst t ht).operand.map _).map _
      exact hInput.bind fun _ _ => (AggregateKind.lacksOnly_accumulator _ _).bind fun _ _ =>
        (ih hRest).bind fun _ _ => .ok _
  exact (hKeyFields _ hKeys).bind fun _ _ => (hAccumulators _ hAggregates).bind fun _ _ => .ok _

theorem Grouping.lacksOnly_keyValue {site : Site} {e : Expression}
    (h : ∀ c : Expression, c.LocalPart e → site.LacksOnly P c) : LacksOnly P (keyValue site e) := by
  unfold keyValue
  split
  · exact ((h _ (.child (.head _) (.self _))).operand.map _).map _
  · exact (h _ (.self _)).operand.map _

/-- From its condition on, a statement lacks nothing if its subqueries are known. -/
theorem Planning.lacksOnly_narrow {p : Planning} {s : Statement}
    (h : ∀ a, s.HasSubquery a → a.statement ≠ none → p.scope.subqueryField? a.signature ≠ none) :
    LacksOnly P (p.narrow caseSensitive s) := by
  have hPart : ∀ {g : Grouping} {e c : Expression}, e ∈ s.expressions → c.LocalPart e →
      Site.LacksOnly ⟨p.scope, g, caseSensitive⟩ P c := by
    intro g e c he hc
    refine Site.lacksOnly c fun a ha hStatement hNone => ?_
    exact absurd hNone (h a ⟨e, he, ha.trans hc⟩ hStatement)
  have hExpression : ∀ {g : Grouping} {e : Expression}, e ∈ s.expressions →
      Site.LacksOnly ⟨p.scope, g, caseSensitive⟩ P e := fun he => hPart he (.self _)
  have hCondition : ∀ e, s.condition = some e → e ∈ s.expressions :=
    fun e he => Statement.mem_expressions.mpr (.inr (.inl he))
  have hGroupBy : ∀ e ∈ s.groupBy, e ∈ s.expressions :=
    fun e he => Statement.mem_expressions.mpr (.inr (.inr (.inl he)))
  have hHaving : ∀ e, s.having = some e → e ∈ s.expressions :=
    fun e he => Statement.mem_expressions.mpr (.inr (.inr (.inr (.inl he))))
  have hGroups : LacksOnly P ((Grouping.ofStatement s).stageDocument (p.site caseSensitive)) := by
    refine Grouping.lacksOnly_stageDocument ?_ ?_
    · intro k hk
      refine Grouping.lacksOnly_keyValue fun c hc => ?_
      exact hPart (hGroupBy _ (Grouping.mem_groupBy_of_mem_keys hk)) hc
    · intro a ha t ht
      obtain ⟨e, he, hTarget⟩ := Grouping.exists_localPart_of_mem_aggregates ha ht
      exact hPart he hTarget
  have hLast : ∀ q : Planning, LacksOnly P
      ((q.filter ⟨p.scope, .ofStatement s, caseSensitive⟩ s.having).bind fun q =>
        .ok (q, Grouping.ofStatement s)) :=
    fun q => (lacksOnly_filter fun e he => hExpression (hHaving e he)).bind fun _ _ => .ok _
  refine .bind (lacksOnly_filter fun e he => hExpression (hCondition e he)) fun filtered _ => ?_
  dsimp only
  split
  · exact hLast filtered
  · exact hGroups.bind fun body _ => hLast _

theorem Planning.lacksOnly_reduce {p : Planning} {site : Site} {a : Aggregate}
    (h : ∀ e, a.aggregated? = some e → site.LacksOnly P e) : LacksOnly P (p.reduce site a) := by
  unfold reduce
  dsimp only
  split
  · rename_i e he
    exact ((h e he).operand.map _).bind fun _ _ =>
      (AggregateKind.lacksOnly_accumulator _ _).bind fun _ _ => .ok _
  · exact (AggregateKind.lacksOnly_accumulator _ _).bind fun _ _ => .ok _

/-- A subquery is planned, or its statement lacks something, or its target strays. -/
theorem Aggregate.lacksOnly_plan {kind : AggregateKind} {target : Option Expression}
    {s : Statement} (hStatement : ∀ cs, LacksOnly P (s.planSource caseSensitive cs))
    (hTarget : ∀ a, Strays ⟨kind, target, some s⟩ a → P a) (p : Planning) :
    LacksOnly P (Aggregate.plan caseSensitive ⟨kind, target, some s⟩ p) := by
  rw [Aggregate.plan.eq_def]
  dsimp only
  split
  · exact .ok p
  · split
    · exact .error (by simp)
    · refine (hStatement _).bind fun planned hPlanned => ?_
      obtain ⟨inner, g⟩ := planned
      have hKnown : ∀ a, s.HasSubquery a → a.statement ≠ none →
          inner.scope.subqueryField? a.signature ≠ none :=
        fun a => Statement.not_lacks hPlanned
      refine .bind (Planning.lacksOnly_reduce fun e he => Site.lacksOnly e ?_) fun _ _ => .ok _
      intro a ha hSubquery hNone
      cases target with
      | some t =>
        obtain rfl : t = e := Option.some.inj he
        refine hTarget a ⟨t, s, rfl, rfl, ha, hSubquery, fun c hc hSignature => ?_⟩
        refine hKnown c hc (statement_ne_none_of_signature hSignature hSubquery) ?_
        rw [hSignature]
        exact hNone
      | none =>
        -- The first operand of the nested statement is one of its expressions.
        obtain ⟨o, ho, rfl⟩ := Option.map_eq_some_iff.mp he
        have hOperand : o.expression ∈ s.expressions :=
          Statement.mem_expressions.mpr (.inl ⟨o, List.mem_of_head? ho, rfl⟩)
        exact absurd hNone (hKnown a ⟨_, hOperand, ha⟩ hSubquery)

/-- The subqueries of an expression can be planned, or else are lacking with a property. -/
def Expression.Plannable (caseSensitive : Bool) (P : Aggregate → Prop) (e : Expression) : Prop :=
  ∀ kind target s, e.HasSubquery ⟨kind, target, some s⟩ →
    ∀ p, LacksOnly P (Aggregate.plan caseSensitive ⟨kind, target, some s⟩ p)

theorem Expression.lacksOnly_planAll {es : List Expression}
    (h : ∀ e ∈ es, ∀ p, LacksOnly P (e.plan caseSensitive p)) (p : Planning) :
    LacksOnly P (Expression.planAll caseSensitive es p) := by
  induction es generalizing p with
  | nil => exact .ok p
  | cons e es ih =>
    obtain ⟨hFirst, hRest⟩ := List.forall_mem_cons.mp h
    exact (hFirst p).bind fun q _ => ih hRest q

theorem Expression.Plannable.lacksOnly_plan {e : Expression} (h : e.Plannable caseSensitive P)
    (p : Planning) : LacksOnly P (e.plan caseSensitive p) := by
  induction e using Expression.local_induction generalizing p with
  | step e ih =>
    by_cases hSubquery : ∃ kind target s, e = .aggregate ⟨kind, target, some s⟩
    · obtain ⟨kind, target, s, rfl⟩ := hSubquery
      exact h kind target s (.self _) p
    · rw [Expression.plan_eq_planAll caseSensitive
        (fun kind target s he => hSubquery ⟨kind, target, s, he⟩) p]
      refine Expression.lacksOnly_planAll (fun c hc p => ih c hc ?_ p) p
      exact fun kind target s hPart => h kind target s (hasSubquery_of_child hc hPart)

theorem JoinNode.lacksOnly_planOne {node : JoinNode}
    (h : ∀ e, node.condition = some e → e.Plannable caseSensitive P) (p : Planning) :
    LacksOnly P (node.planOne caseSensitive p) := by
  have hFilter : ∀ inner, Expression.planOption caseSensitive node.condition (node.startAt p) =
      .ok inner → LacksOnly P (inner.filter (inner.site caseSensitive) node.condition) := by
    intro inner hInner
    refine Planning.lacksOnly_filter fun e he => Site.lacksOnly e fun a ha hStatement hNone => ?_
    rw [he] at hInner
    have hKnown := (Expression.adds_plan e hInner).known a ha hStatement
    exact absurd hNone (Option.isSome_iff_ne_none.mp hKnown)
  refine .bind ?_ fun inner hInner => (hFilter inner hInner).bind fun _ _ => .ok _
  cases hCondition : node.condition with
  | none => exact .ok _
  | some e => exact (h e hCondition).lacksOnly_plan _

theorem JoinNode.lacksOnly_planAll {ns : List JoinNode}
    (h : ∀ node ∈ preorder ns, ∀ e, node.condition = some e → e.Plannable caseSensitive P)
    (p : Planning) : LacksOnly P (JoinNode.planAll caseSensitive ns p) := by
  rw [planAll_eq_foldlM]
  generalize preorder ns = nodes at h
  induction nodes generalizing p with
  | nil => exact .ok p
  | cons node nodes ih =>
    obtain ⟨hFirst, hRest⟩ := List.forall_mem_cons.mp h
    rw [List.foldlM_cons]
    exact (lacksOnly_planOne hFirst p).bind fun q _ => ih q hRest

/-- A statement is planned without a subquery lacking, except in targets that stray. -/
theorem Statement.lacksOnly_planSource (s : Statement) (cs : Correlations) :
    LacksOnly s.Strays (s.planSource caseSensitive cs) := by
  induction s using Statement.holds_induction generalizing cs with
  | step s ih =>
    have hPlan : ∀ kind target t, s.Holds ⟨kind, target, some t⟩ →
        ∀ p, LacksOnly s.Strays (Aggregate.plan caseSensitive ⟨kind, target, some t⟩ p) := by
      intro kind target t hHolds p
      refine Aggregate.lacksOnly_plan (fun cs => ?_) (fun a ha => ⟨_, .own hHolds, ha⟩) p
      refine (ih _ t hHolds rfl cs).mono ?_
      rintro a ⟨b, hb, ha⟩
      exact ⟨b, .inner hHolds rfl hb, ha⟩
    rw [Statement.planSource_eq]
    refine .bind (JoinNode.lacksOnly_planAll ?_ _) fun joined _ => ?_
    · intro node hNode e he kind target t ha
      exact hPlan kind target t (.inr ⟨node, hNode, e, he, ha⟩)
    · refine .bind (Expression.lacksOnly_planAll ?_ joined) fun planned hPlanned => ?_
      · intro e he
        have hPlannable : e.Plannable caseSensitive s.Strays :=
          fun kind target t ha => hPlan kind target t (.inl ⟨e, he, ha⟩)
        exact hPlannable.lacksOnly_plan
      · have hAdds := Expression.adds_planAll (fun e _ p q h => Expression.adds_plan e h) hPlanned
        refine Planning.lacksOnly_narrow fun a ha hStatement => ?_
        exact Option.isSome_iff_ne_none.mp (hAdds.known a ha hStatement)

theorem Projection.lacksOnly_addAll {site : Site} {columns : List (OutputColumn × String)}
    (h : ∀ column ∈ columns, site.LacksOnly P column.1.expression) (p : Projection) :
    LacksOnly P (p.addAll site columns) := by
  induction columns generalizing p with
  | nil => exact .ok p
  | cons column columns ih =>
    obtain ⟨hFirst, hRest⟩ := List.forall_mem_cons.mp h
    exact (hFirst.operand.bind fun _ _ => .ok _).bind fun q _ => ih hRest q

theorem Projection.lacksOnly_sortValue {site : Site} {e : Expression} (h : site.LacksOnly P e) :
    LacksOnly P (sortValue site e) := by
  unfold sortValue
  split
  · exact .ok _
  · exact h.operand.map _

theorem Projection.lacksOnly_addSorts {site : Site} {keys : List SortKey} (p : Projection)
    (h : ∀ key ∈ keys, site.LacksOnly P key.expression) (s : Sorting) (index : Nat) :
    LacksOnly P (p.addSorts site s index keys) := by
  induction keys generalizing s index with
  | nil => exact .ok s
  | cons key keys ih =>
    obtain ⟨hFirst, hRest⟩ := List.forall_mem_cons.mp h
    rw [addSorts]
    cases p.sortTarget site.grouping key.expression with
    | field name => exact ih hRest _ _
    | helper caseless =>
      exact (lacksOnly_sortValue hFirst).bind fun v _ => ih hRest _ _
    | nothing => exact ih hRest _ _

/-- Compiling a statement fails for want of a subquery only where a target strays. -/
theorem Statement.lacksOnly_compile (s : Statement) :
    LacksOnly s.Strays (s.compile caseSensitive) := by
  refine (s.lacksOnly_planSource []).bind fun planned hPlanned => ?_
  obtain ⟨p, g⟩ := planned
  have hExpression : ∀ e ∈ s.expressions,
      Site.LacksOnly ⟨p.scope, g, caseSensitive⟩ s.Strays e := by
    intro e he
    refine Site.lacksOnly e fun a ha hStatement hNone => ?_
    exact absurd hNone (Statement.not_lacks hPlanned ⟨e, he, ha⟩ hStatement)
  have hOperand : ∀ o ∈ s.operands, o.expression ∈ s.expressions :=
    fun o ho => mem_expressions.mpr (.inl ⟨o, ho, rfl⟩)
  have hSort : ∀ key ∈ s.sorts, key.expression ∈ s.expressions :=
    fun key hKey => mem_expressions.mpr (.inr (.inr (.inr (.inr ⟨key, hKey, rfl⟩))))
  refine .bind ?_ fun _ _ => .ok _
  refine (Projection.lacksOnly_addAll ?_ _).bind fun projection _ => ?_
  · intro column hColumn
    exact hExpression _ (hOperand _ (List.of_mem_zip hColumn).1)
  · refine .bind (Projection.lacksOnly_addSorts _ ?_ _ _) fun _ _ => .ok _
    exact fun key hKey => hExpression _ (hSort key hKey)

end

theorem Expression.eq_of_hasSubquery {a : Aggregate} {kind : AggregateKind}
    {target : Option Expression} {s : Statement}
    (h : (Expression.aggregate ⟨kind, target, some s⟩).HasSubquery a) :
    a = ⟨kind, target, some s⟩ := by
  obtain hSelf | ⟨c, hc, _⟩ := hasSubquery_iff.mp h
  · exact (Expression.aggregate.inj hSelf).symm
  · cases hc

/-- Every subquery in a target has its signature among the subqueries of the statement that the
target is computed in. -/
def Statement.PlansTargets (s : Statement) : Prop :=
  ∀ b t inner, s.Nests b → b.target = some t → b.statement = some inner →
    ∀ a, t.HasSubquery a → a.statement ≠ none →
      ∃ c, inner.HasSubquery c ∧ c.signature = a.signature

/-- No subquery is compiled before it is planned, neither in a statement nor in one nested in it,
if the statements of subqueries plan what their targets need. -/
theorem Statement.compile_ne_unplannedSubquery {s : Statement} (h : s.PlansTargets)
    (caseSensitive : Bool) (a : Aggregate) :
    s.compile caseSensitive ≠ .error (.unplannedSubquery a) := by
  intro hError
  obtain ⟨b, hNests, t, inner, hTarget, hStatement, ha, hSubquery, hNone⟩ :=
    s.lacksOnly_compile a hError
  obtain ⟨c, hc, hSignature⟩ := h b t inner hNests hTarget hStatement a ha hSubquery
  exact hNone c hc hSignature

namespace Statement

def productCount : Aggregate :=
  ⟨.count, none, some { Statement.empty with table := "Products", aliasName := some "p" }⟩

def productTotals (items : Statement) : Statement :=
  { Statement.empty with
    table := "Orders"
    aliasName := some "o"
    operands := [⟨.aggregate ⟨.sum, some (.aggregate productCount), some items⟩, some "Total"⟩] }

def allItems : Statement := { Statement.empty with table := "Items", aliasName := some "i" }

def itemsOfProducts : Statement :=
  { allItems with
    condition := some (.binary .greater (.aggregate productCount) (.constant (.int32 0))) }

theorem holds_productTotals {items : Statement} {b : Aggregate}
    (h : (productTotals items).Holds b) :
    b = ⟨.sum, some (.aggregate productCount), some items⟩ := by
  obtain ⟨e, he, hb⟩ | ⟨node, hNode, _⟩ := h
  · obtain rfl := List.mem_singleton.mp he
    exact Expression.eq_of_hasSubquery hb
  · cases hNode

theorem holds_itemsOfProducts {b : Aggregate} (h : itemsOfProducts.Holds b) : b = productCount := by
  obtain ⟨e, he, hb⟩ | ⟨node, hNode, _⟩ := h
  · obtain rfl := List.mem_singleton.mp he
    obtain hSelf | ⟨c, hc, hb⟩ := Expression.hasSubquery_iff.mp hb
    · cases hSelf
    · obtain rfl | rfl := List.mem_pair.mp hc
      · exact Expression.eq_of_hasSubquery hb
      · obtain hSelf | ⟨c, hc, _⟩ := Expression.hasSubquery_iff.mp hb
        · cases hSelf
        · cases hc
  · cases hNode

theorem plansTargets_productTotals : (productTotals itemsOfProducts).PlansTargets := by
  have hProducts : ∀ {b t}, productCount.statement = some t → ¬ t.Nests b := by
    rintro b t ht hNests
    cases ht
    cases hNests with
    | own h | inner h => obtain ⟨_, he, _⟩ | ⟨_, hNode, _⟩ := h <;> contradiction
  intro b t inner hNests hTarget hStatement a ha _
  cases hNests with
  | own h =>
    obtain rfl := holds_productTotals h
    cases hTarget
    cases hStatement
    obtain rfl := Expression.eq_of_hasSubquery ha
    refine ⟨productCount, ⟨_, List.mem_singleton_self _, ?_⟩, rfl⟩
    exact .child (.head _) (.self _)
  | inner h hInner hNests =>
    obtain rfl := holds_productTotals h
    cases hInner
    cases hNests with
    | own h =>
      obtain rfl := holds_itemsOfProducts h
      cases hTarget
    | inner h hInner hNests =>
      obtain rfl := holds_itemsOfProducts h
      exact absurd hNests (hProducts hInner)

theorem compile_productTotals_itemsOfProducts :
    (productTotals itemsOfProducts).PlansTargets ∧
      ∀ a, (productTotals itemsOfProducts).compile false ≠ .error (.unplannedSubquery a) :=
  ⟨plansTargets_productTotals, compile_ne_unplannedSubquery plansTargets_productTotals false⟩

/-- The products are counted in the target only, and nothing plans that. -/
theorem compile_productTotals_allItems :
    (productTotals allItems).compile false = .error (.unplannedSubquery productCount) := by
  rfl

end Statement

end RelPipe
