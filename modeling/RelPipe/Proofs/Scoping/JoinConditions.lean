import RelPipe.Proofs.Scoping.Levels

/-!
Columns in the join conditions of a statement. The pipeline of a join is given variables for the
columns of what is joined so far, and for nothing else: a column of a statement further out is read
from the joined documents themselves, although the statement has a variable for it.
-/

namespace RelPipe

set_option autoImplicit false

namespace JoinNode

variable {caseSensitive : Bool}

/-- The joins of a forest together with where planning stands when they are reached. -/
inductive Visits (caseSensitive : Bool) :
    List JoinNode → Planning → JoinNode → Planning → Prop where
  | first (node : JoinNode) (rest : List JoinNode) (p : Planning) :
    Visits caseSensitive (node :: rest) p node p
  | under {node n : JoinNode} {rest : List JoinNode} {p one q : Planning}
    (hOne : node.planOne caseSensitive p = .ok one)
    (h : Visits caseSensitive node.joins one n q) : Visits caseSensitive (node :: rest) p n q
  | later {node n : JoinNode} {rest : List JoinNode} {p one below q : Planning}
    (hOne : node.planOne caseSensitive p = .ok one)
    (hBelow : JoinNode.planAll caseSensitive node.joins one = .ok below)
    (h : Visits caseSensitive rest below n q) : Visits caseSensitive (node :: rest) p n q

theorem mem_preorder_cons {n node : JoinNode} {rest : List JoinNode} :
    n ∈ preorder (node :: rest) ↔ n = node ∨ n ∈ preorder node.joins ∨ n ∈ preorder rest := by
  obtain ⟨table, aliasName, kind, condition, joins⟩ := node
  rw [preorder, subtree, List.mem_append, List.mem_cons, or_assoc]

theorem Visits.mem_preorder {ns : List JoinNode} {p q : Planning} {n : JoinNode}
    (h : Visits caseSensitive ns p n q) : n ∈ preorder ns := by
  induction h with
  | first => exact mem_preorder_cons.mpr (.inl rfl)
  | under _ _ ih => exact mem_preorder_cons.mpr (.inr (.inl ih))
  | later _ _ _ ih => exact mem_preorder_cons.mpr (.inr (.inr ih))

theorem exists_visits : ∀ (ns : List JoinNode) {p q : Planning} {n : JoinNode},
    JoinNode.planAll caseSensitive ns p = .ok q → n ∈ preorder ns →
      ∃ reached, Visits caseSensitive ns p n reached
  | [], p, q, n, _, hn => by cases hn
  | ⟨table, aliasName, kind, condition, joins⟩ :: rest, p, q, n, h, hn => by
    obtain ⟨one, below, hOne, hBelow, hRest⟩ := exists_of_planAll_cons h
    obtain rfl | hn | hn := mem_preorder_cons.mp hn
    · exact ⟨p, .first _ rest p⟩
    · obtain ⟨reached, hVisits⟩ := exists_visits joins hBelow hn
      exact ⟨reached, .under hOne hVisits⟩
    · obtain ⟨reached, hVisits⟩ := exists_visits rest hRest hn
      exact ⟨reached, .later hOne hBelow hVisits⟩

theorem outerColumns_subset_of_mem_preorder {declared : List (CaselessMap Unit)} {n : JoinNode}
    {e : Expression} (he : n.condition = some e) : ∀ {ns : List JoinNode}, n ∈ preorder ns →
      e.outerColumns declared ⊆ JoinNode.outerColumnsAll declared ns
  | [], hn => by cases hn
  | ⟨table, aliasName, kind, condition, joins⟩ :: rest, hn => by
    rw [outerColumnsAll, List.append_assoc]
    obtain rfl | hn | hn := mem_preorder_cons.mp hn
    · obtain rfl : condition = some e := he
      exact List.subset_append_left _ _
    · exact List.subset_append_of_subset_right _
        (List.subset_append_of_subset_left _ (outerColumns_subset_of_mem_preorder he hn))
    · exact List.subset_append_of_subset_right _
        (List.subset_append_of_subset_right _ (outerColumns_subset_of_mem_preorder he hn))

theorem stages_planOne {node : JoinNode} {p q : Planning}
    (h : node.planOne caseSensitive p = .ok q) :
    p.plan.stages <+: q.plan.stages ∧ ∃ inner joined, node.Joined caseSensitive p inner joined ∧
      ⟨.lookup, .document (lookupDocument node.table (node.fieldAt p) joined.scope.correlations
        joined.plan)⟩ ∈ q.plan.stages := by
  obtain ⟨inner, joined, hJoined, rfl⟩ := exists_of_planOne h
  have hLookup := p.plan.mem_stages_add .lookup
    (Planning.lookupDocument_ne_nil node.table (node.fieldAt p) joined.scope.correlations joined.plan)
  have hPlan : (p.attachJoin node.table (node.fieldAt p) node.kind joined).plan =
      (p.plan.add .lookup (.document (lookupDocument node.table (node.fieldAt p)
        joined.scope.correlations joined.plan))).add .unwind
        (.document (unwindDocument (node.fieldAt p) (node.kind ≠ .inner))) := rfl
  rw [hPlan]
  refine ⟨?_, inner, joined, hJoined, ?_⟩
  · exact (Plan.stages_prefix_add _ _ _).trans (Plan.stages_prefix_add _ _ _)
  · exact (Plan.stages_prefix_add _ _ _).subset hLookup

theorem stages_planAll : ∀ (ns : List JoinNode) {p q : Planning},
    JoinNode.planAll caseSensitive ns p = .ok q → p.plan.stages <+: q.plan.stages
  | [], p, q, h => by
    cases h
    exact List.prefix_refl _
  | ⟨table, aliasName, kind, condition, joins⟩ :: rest, p, q, h => by
    obtain ⟨one, below, hOne, hBelow, hRest⟩ := exists_of_planAll_cons h
    exact ((stages_planOne hOne).1.trans (stages_planAll joins hBelow)).trans
      (stages_planAll rest hRest)

/-- A join that is reached is planned there, and its lookup stays in the plan. -/
theorem Visits.exists_joined {ns : List JoinNode} {p q reached : Planning} {n : JoinNode}
    (h : Visits caseSensitive ns p n reached) (hPlanned : JoinNode.planAll caseSensitive ns p = .ok q) :
    ∃ inner joined, n.Joined caseSensitive reached inner joined ∧
      ⟨.lookup, .document (lookupDocument n.table (n.fieldAt reached) joined.scope.correlations
        joined.plan)⟩ ∈ q.plan.stages := by
  induction h generalizing q with
  | first node rest p =>
    obtain ⟨one, below, hOne, hBelow, hRest⟩ := exists_of_planAll_cons hPlanned
    obtain ⟨_, inner, joined, hJoined, hStage⟩ := stages_planOne hOne
    exact ⟨inner, joined, hJoined,
      ((stages_planAll _ hBelow).trans (stages_planAll _ hRest)).subset hStage⟩
  | under hOne _ ih =>
    obtain ⟨one, below, hOne', hBelow, hRest⟩ := exists_of_planAll_cons hPlanned
    cases hOne.symm.trans hOne'
    obtain ⟨inner, joined, hJoined, hStage⟩ := ih hBelow
    exact ⟨inner, joined, hJoined, (stages_planAll _ hRest).subset hStage⟩
  | later hOne hBelow _ ih =>
    obtain ⟨one, below, hOne', hBelow', hRest⟩ := exists_of_planAll_cons hPlanned
    cases hOne.symm.trans hOne'
    cases hBelow.symm.trans hBelow'
    exact ih hRest

theorem Visits.correlations {ns : List JoinNode} {p reached : Planning} {n : JoinNode}
    (h : Visits caseSensitive ns p n reached) :
    reached.scope.correlations = p.scope.correlations := by
  have hStep : ∀ {node : JoinNode} {p one : Planning}, node.planOne caseSensitive p = .ok one →
      one.scope.correlations = p.scope.correlations := by
    intro node p one hOne
    obtain ⟨_, _, _, rfl⟩ := exists_of_planOne hOne
    rfl
  induction h with
  | first => rfl
  | under hOne _ ih => exact ih.trans (hStep hOne)
  | later hOne hBelow _ ih =>
    exact ih.trans ((planAll_scope _ hBelow).1.trans (hStep hOne))

/-- Whether the pipeline of a join has variables for the columns of a qualifier. -/
def binds (n : JoinNode) (p : Planning) (qualifier : String) : Bool :=
  !CaselessMap.sameName qualifier (n.fieldAt p) && p.scope.aliases.contains qualifier

theorem binds_congr (n : JoinNode) (p : Planning) {a b : String}
    (h : Text.lower a = Text.lower b) : n.binds p a = n.binds p b := by
  unfold binds AliasTable.contains CaselessMap.sameName
  rw [h, CaselessMap.contains_congr _ h]

theorem correlations_startAt (n : JoinNode) (p : Planning) :
    (n.startAt p).scope.correlations =
      Correlations.bindColumns (n.binds p) p.scope.columnPath []
        (n.condition.toList.flatMap (·.outerColumns [])) :=
  p.joinCorrelations_eq (n.fieldAt p) n.condition

theorem columnPath_startAt_of_not_binds {n : JoinNode} {p : Planning} {ref : ColumnRef}
    {qualifier : String} (hQualifier : ref.qualifier = some qualifier)
    (h : n.binds p qualifier = false) :
    (n.startAt p).scope.columnPath ref = "$" ++ ColumnName.normalize ref.name := by
  have hNone : (n.startAt p).scope.correlations.nameOf? (.of qualifier ref.name) = none := by
    rw [correlations_startAt]
    refine Correlations.nameOf?_bindColumns_eq_none ?_
    intro ref' _ qualifier' _ hBinds hKey
    rw [n.binds_congr p (CorrelationKey.of_eq_iff.mp hKey).1, h] at hBinds
    cases hBinds
  rw [Scope.columnPath, hQualifier, Option.getD_some, hNone]
  exact AliasTable.fieldPath_rooted (n.fieldAt p) (some qualifier) ref.name

theorem columnPath_startAt_of_binds {n : JoinNode} {p : Planning} {e : Expression}
    (he : n.condition = some e) {ref : ColumnRef} (hRef : ref ∈ e.outerColumns [])
    {qualifier : String} (hQualifier : ref.qualifier = some qualifier)
    (h : n.binds p qualifier = true) (plan : Plan) :
    ∃ index, ∃ ref' ∈ e.outerColumns [], ∃ qualifier', ref'.qualifier = some qualifier' ∧
      CorrelationKey.of qualifier' ref'.name = .of qualifier ref.name ∧
      (n.startAt p).scope.columnPath ref = "$$" ++ Correlations.variableName index ∧
      Lookup.binding? (lookupDocument n.table (n.fieldAt p) (n.startAt p).scope.correlations plan)
        (Correlations.variableName index) = some (.string (p.scope.columnPath ref')) := by
  have hColumns : n.condition.toList.flatMap (·.outerColumns []) = e.outerColumns [] := by
    rw [he]
    simp
  obtain ⟨index, ref', hRef', qualifier', hQualifier', hKey, hName, hValue⟩ :=
    @Correlations.exists_nameOf?_bindColumns (n.binds p) p.scope.columnPath _ _ hRef _
      hQualifier h
  rw [← hColumns, ← correlations_startAt] at hName hValue
  have hSome : (n.startAt p).scope.correlations ≠ [] := by
    intro hNil
    rw [hNil] at hName
    cases hName
  refine ⟨index, ref', hRef', qualifier', hQualifier', hKey, ?_, ?_⟩
  · exact Scope.columnPath_of_nameOf? hQualifier hName
  · rw [Lookup.binding?_lookupDocument _ _ hSome, hValue]

theorem Joined.extends {n : JoinNode} {p inner joined : Planning}
    (h : n.Joined caseSensitive p inner joined) :
    (n.startAt p).Extends inner ∧ inner.Extends joined := by
  have hPlanned := h.planned
  rw [Expression.planOption_eq] at hPlanned
  exact ⟨(Expression.adds_planAll (fun e _ p q h => Expression.adds_plan e h) hPlanned).grows,
    (Planning.extends_filter h.filtered).1⟩

/-- Without a variable, a column of a join condition is one of the joined documents. -/
theorem Joined.columnPath_of_not_binds {n : JoinNode} {p inner joined : Planning}
    (h : n.Joined caseSensitive p inner joined) {ref : ColumnRef} {qualifier : String}
    (hQualifier : ref.qualifier = some qualifier) (hBinds : n.binds p qualifier = false) :
    inner.scope.columnPath ref = "$" ++ ColumnName.normalize ref.name := by
  rw [h.extends.1.columnPath]
  exact columnPath_startAt_of_not_binds hQualifier hBinds

theorem contains_planOne {node : JoinNode} {p q : Planning}
    (h : node.planOne caseSensitive p = .ok q) (name : String) :
    q.scope.aliases.contains name =
      (p.scope.aliases.contains name || CaselessMap.sameName (node.fieldAt p) name) := by
  obtain ⟨_, _, _, rfl⟩ := exists_of_planOne h
  exact CaselessMap.contains_insert _ _ _ _

theorem registered_of_planOne {node : JoinNode} {rest : List JoinNode} {p q : Planning}
    (h : node.planOne caseSensitive p = .ok q) {name : String}
    (hName : q.scope.aliases.contains name = true) :
    p.scope.aliases.contains name = true ∨ ∃ n ∈ preorder (node :: rest), ∃ p' : Planning,
      CaselessMap.sameName (n.fieldAt p') name = true := by
  rw [contains_planOne h, Bool.or_eq_true] at hName
  obtain hName | hName := hName
  · exact .inl hName
  · exact .inr ⟨node, mem_preorder_cons.mpr (.inl rfl), p, hName⟩

theorem registered_of_planAll {name : String} : ∀ (ns : List JoinNode) {p q : Planning},
    JoinNode.planAll caseSensitive ns p = .ok q → q.scope.aliases.contains name = true →
      p.scope.aliases.contains name = true ∨ ∃ n ∈ preorder ns, ∃ p' : Planning,
        CaselessMap.sameName (n.fieldAt p') name = true
  | [], p, q, h, hName => by
    cases h
    exact .inl hName
  | ⟨table, aliasName, kind, condition, joins⟩ :: rest, p, q, h, hName => by
    obtain ⟨one, below, hOne, hBelow, hRest⟩ := exists_of_planAll_cons h
    obtain hName | ⟨n, hn, hField⟩ := registered_of_planAll rest hRest hName
    · obtain hName | ⟨n, hn, hField⟩ := registered_of_planAll joins hBelow hName
      · exact registered_of_planOne hOne hName
      · exact .inr ⟨n, mem_preorder_cons.mpr (.inr (.inl hn)), hField⟩
    · exact .inr ⟨n, mem_preorder_cons.mpr (.inr (.inr hn)), hField⟩

theorem Visits.registered {ns : List JoinNode} {p reached : Planning} {n : JoinNode}
    (h : Visits caseSensitive ns p n reached) {name : String}
    (hName : reached.scope.aliases.contains name = true) :
    p.scope.aliases.contains name = true ∨ ∃ n ∈ preorder ns, ∃ p' : Planning,
      CaselessMap.sameName (n.fieldAt p') name = true := by
  induction h with
  | first => exact .inl hName
  | under hOne _ ih =>
    obtain hName | ⟨n, hn, hField⟩ := ih hName
    · exact registered_of_planOne hOne hName
    · exact .inr ⟨n, mem_preorder_cons.mpr (.inr (.inl hn)), hField⟩
  | later hOne hBelow _ ih =>
    obtain hName | ⟨n, hn, hField⟩ := ih hName
    · obtain hName | ⟨n, hn, hField⟩ := registered_of_planAll _ hBelow hName
      · exact registered_of_planOne hOne hName
      · exact .inr ⟨n, mem_preorder_cons.mpr (.inr (.inl hn)), hField⟩
    · exact .inr ⟨n, mem_preorder_cons.mpr (.inr (.inr hn)), hField⟩

theorem fieldAt_eq_declaredAlias {n : JoinNode} (h : n.declaredAlias ≠ "") (p : Planning) :
    n.fieldAt p = n.declaredAlias := by
  obtain ⟨table, aliasName, kind, condition, joins⟩ := n
  cases aliasName with
  | none =>
    have hTable : table ≠ "" := h
    simp [fieldAt, fieldName, declaredAlias, hTable]
  | some name =>
    by_cases hName : name = ""
    · subst hName
      have hTable : table ≠ "" := h
      simp [fieldAt, fieldName, declaredAlias, hTable, Option.filter]
    · simp [fieldAt, fieldName, declaredAlias, hName, Option.filter]

end JoinNode

theorem Statement.contains_declared (s : Statement) (name : String) :
    s.declared.contains name = (CaselessMap.sameName (s.aliasName.getD "") name ||
      (JoinNode.preorder s.joins).any fun n => CaselessMap.sameName n.declaredAlias name) := by
  rw [declared, declaredAliases, CaselessMap.contains_ofList, List.map_cons, List.any_cons,
    List.map_map, List.any_map]
  rfl

/-- While the joins of a statement are planned, no name is known that the statement does not
declare, unless a join has neither a table nor an alias. -/
theorem Statement.contains_eq_false_of_visits {caseSensitive : Bool} {s : Statement}
    {cs : Correlations} {n : JoinNode} {reached : Planning}
    (h : JoinNode.Visits caseSensitive s.joins (.start s.table (s.aliasName.getD "") cs) n reached)
    (hNamed : ∀ n ∈ JoinNode.preorder s.joins, n.declaredAlias ≠ "") {name : String}
    (hFree : s.declared.contains name = false) : reached.scope.aliases.contains name = false := by
  rw [Statement.contains_declared, Bool.or_eq_false_iff, List.any_eq_false] at hFree
  rw [← Bool.not_eq_true]
  intro hName
  obtain hRoot | ⟨n, hn, p, hField⟩ := h.registered hName
  · have hSame : CaselessMap.sameName (s.aliasName.getD "") name = true := by
      have hRooted := CaselessMap.contains_insert .empty (s.aliasName.getD "") "" name
      rw [← hRoot]
      exact hRooted.symm
    rw [hFree.1] at hSame
    cases hSame
  · rw [JoinNode.fieldAt_eq_declaredAlias (hNamed n hn)] at hField
    exact hFree.2 n hn hField

namespace Level

variable {caseSensitive : Bool} {s : Statement}

/-- The joins of a level together with where its planning stands when they are reached. -/
def VisitsJoin (caseSensitive : Bool) (M : Level) (n : JoinNode) (reached : Planning) : Prop :=
  JoinNode.Visits caseSensitive M.statement.joins
    (.start M.statement.table (M.statement.aliasName.getD "") M.scope.correlations) n reached

theorem Stack.exists_planAll {M : Level} {outer : List Level}
    (h : Stack caseSensitive s (M :: outer)) :
    ∃ q : Planning, JoinNode.planAll caseSensitive M.statement.joins
        (.start M.statement.table (M.statement.aliasName.getD "") M.scope.correlations) = .ok q ∧
      q.plan.stages <+: M.planning.plan.stages := by
  obtain ⟨cs, hPlanned⟩ := h.planned
  obtain rfl : M.scope.correlations = cs := Statement.correlations_planSource hPlanned
  obtain ⟨q, p, hJoins, hAdds, hNarrow⟩ := Statement.exists_of_planSource hPlanned
  exact ⟨q, hJoins, hAdds.grows.stages.trans (Planning.extends_narrow hNarrow).1.stages⟩

/-- The stage of a join, whose pipeline has the given plan. -/
def joinLookup (n : JoinNode) (reached joined : Planning) : Document :=
  lookupDocument n.table (n.fieldAt reached) joined.scope.correlations joined.plan

theorem Stack.exists_joined {M : Level} {outer : List Level}
    (h : Stack caseSensitive s (M :: outer)) {n : JoinNode} {reached : Planning}
    (hVisits : M.VisitsJoin caseSensitive n reached) :
    ∃ inner joined, n.Joined caseSensitive reached inner joined ∧
      ⟨.lookup, .document (joinLookup n reached joined)⟩ ∈ M.planning.plan.stages := by
  obtain ⟨q, hPlanned, hStages⟩ := h.exists_planAll
  obtain ⟨inner, joined, hJoined, hStage⟩ := hVisits.exists_joined hPlanned
  exact ⟨inner, joined, hJoined, hStages.subset hStage⟩

theorem VisitsJoin.binds_eq_false {M : Level} {n : JoinNode} {reached : Planning}
    (h : M.VisitsJoin caseSensitive n reached)
    (hNamed : ∀ n ∈ M.statement.joinNodes, n.declaredAlias ≠ "") {qualifier : String}
    (hFree : M.declares qualifier = false) : n.binds reached qualifier = false := by
  rw [JoinNode.binds, Statement.contains_eq_false_of_visits h hNamed hFree, Bool.and_false]

theorem VisitsJoin.mem_outerColumns {M : Level} {n : JoinNode} {reached : Planning}
    (h : M.VisitsJoin caseSensitive n reached) {e : Expression} (he : n.condition = some e)
    {ref : ColumnRef} (hRef : ref ∈ e.outerColumns []) {qualifier : String}
    (hQualifier : ref.qualifier = some qualifier) (hFree : M.declares qualifier = false) :
    ref ∈ M.outerColumns := by
  have hScope : [M.statement.declared] = [] ++ [M.statement.declared] := rfl
  have hOuter : ref ∈ e.outerColumns [M.statement.declared] := by
    rw [hScope, Expression.outerColumns_append]
    exact List.mem_filter.mpr ⟨hRef, (ColumnRef.isFree_iff hQualifier).mpr hFree⟩
  exact List.mem_append_right _
    (JoinNode.outerColumns_subset_of_mem_preorder he (JoinNode.Visits.mem_preorder h) hOuter)

/-- While its joins are planned, a level reads its outer columns as it does later. -/
theorem VisitsJoin.columnPath {L M : Level} {n : JoinNode} {reached : Planning}
    (h : M.VisitsJoin caseSensitive n reached) (hNests : L.Nests caseSensitive M)
    {ref : ColumnRef} (hRef : ref ∈ M.outerColumns) {qualifier : String}
    (hQualifier : ref.qualifier = some qualifier) :
    reached.scope.columnPath ref = M.scope.columnPath ref := by
  obtain ⟨index, _, _, _, _, _, hName, _⟩ :=
    @Correlations.exists_nameOf?_bindColumns (fun _ => true) L.scope.columnPath _ _ hRef _
      hQualifier rfl
  rw [← hNests.correlations] at hName
  have hReached : reached.scope.correlations = M.scope.correlations := by
    rw [JoinNode.Visits.correlations h]
    rfl
  rw [Scope.columnPath_of_nameOf? hQualifier hName]
  rw [← hReached] at hName
  exact Scope.columnPath_of_nameOf? hQualifier hName

theorem Stack.leadsTo_outer {M S : Level} {between outer : List Level}
    (h : Stack caseSensitive s (M :: (between ++ S :: outer))) {ref : ColumnRef}
    (hRef : ref ∈ M.outerColumns) {qualifier : String} (hQualifier : ref.qualifier = some qualifier)
    (hDeclares : S.declares qualifier = true)
    (hBetween : ∀ N ∈ between, N.declares qualifier = false) :
    S.LeadsTo ref (M.lookup :: between.map lookup) (M.scope.columnPath ref) := by
  have hInner : ∀ N ∈ M :: between, N.declares qualifier = false :=
    List.forall_mem_cons.mpr ⟨declares_of_mem_outerColumns hRef hQualifier, hBetween⟩
  have hHead : ∀ N, (M :: between).head? = some N → ref ∈ N.outerColumns := by
    rintro N ⟨⟩
    exact hRef
  have hStack : Stack caseSensitive s ((M :: between) ++ S :: outer) := h
  exact hStack.leadsTo hQualifier hDeclares hInner hHead

theorem Stack.leadsTo_join {M S : Level} {between outer : List Level}
    (h : Stack caseSensitive s (M :: (between ++ S :: outer))) {n : JoinNode} {reached : Planning}
    (hVisits : M.VisitsJoin caseSensitive n reached) {inner joined : Planning}
    (hJoined : n.Joined caseSensitive reached inner joined) {e : Expression}
    (he : n.condition = some e) {ref : ColumnRef} (hRef : ref ∈ e.outerColumns [])
    {qualifier : String} (hQualifier : ref.qualifier = some qualifier)
    (hFree : M.declares qualifier = false) (hDeclares : S.declares qualifier = true)
    (hBetween : ∀ N ∈ between, N.declares qualifier = false)
    (hBinds : n.binds reached qualifier = true) :
    S.LeadsTo ref (joinLookup n reached joined :: M.lookup :: between.map lookup)
      (inner.scope.columnPath ref) := by
  obtain ⟨hStart, hFilter⟩ := hJoined.extends
  obtain ⟨index, ref', hRef', qualifier', hQualifier', hKey, hPath, hValue⟩ :=
    JoinNode.columnPath_startAt_of_binds he hRef hQualifier hBinds joined.plan
  rw [← hStart.correlations, ← hFilter.correlations] at hValue
  have hSame : ∀ N : Level, N.declares qualifier' = N.declares qualifier := fun N =>
    CaselessMap.contains_congr _ (CorrelationKey.of_eq_iff.mp hKey).1
  have hOuter : ref' ∈ M.outerColumns :=
    hVisits.mem_outerColumns he hRef' hQualifier' (by rw [hSame, hFree])
  have hReached : reached.scope.columnPath ref' = M.scope.columnPath ref' := by
    cases between with
    | nil => cases h with
      | nested _ hNests => exact hVisits.columnPath hNests hOuter hQualifier'
    | cons N between => cases h with
      | nested _ hNests => exact hVisits.columnPath hNests hOuter hQualifier'
  have hNext : S.LeadsTo ref' (M.lookup :: between.map lookup) (reached.scope.columnPath ref') := by
    rw [hReached]
    refine h.leadsTo_outer hOuter hQualifier' (by rw [hSame, hDeclares]) ?_
    intro N hN
    rw [hSame, hBetween N hN]
  rw [hStart.columnPath, hPath]
  exact .cons hValue (hNext.congr hQualifier hQualifier' hKey)

/-- In the condition of a join of a nested statement, a column of a statement further out is read
from a variable exactly where its qualifier is a name that was made known for an earlier join, which
then lacks a table and an alias. Elsewhere it is read from the joined documents, although the
lookup of the nested statement has a variable that leads to the column. -/
theorem Stack.columns_of_join_condition {L M : Level} {rest : List Level}
    (h : Stack caseSensitive s (M :: L :: rest)) :
    (∀ n ∈ M.statement.joinNodes, ∃ reached, M.VisitsJoin caseSensitive n reached) ∧
    ∀ n reached, M.VisitsJoin caseSensitive n reached →
      ∃ inner joined, n.Joined caseSensitive reached inner joined ∧
        ⟨.lookup, .document (joinLookup n reached joined)⟩ ∈ M.planning.plan.stages ∧
        ∀ e, n.condition = some e → ∀ ref ∈ e.outerColumns [], ∀ qualifier,
          ref.qualifier = some qualifier → M.declares qualifier = false →
          ∃ path,
            Site.compile (inner.site caseSensitive) (.column ref) = .ok (.field path) ∧
            (n.binds reached qualifier = false → path = "$" ++ ColumnName.normalize ref.name) ∧
            ((∀ n ∈ M.statement.joinNodes, n.declaredAlias ≠ "") →
              n.binds reached qualifier = false) ∧
            ∀ between S outer, L :: rest = between ++ S :: outer → S.declares qualifier = true →
              (∀ N ∈ between, N.declares qualifier = false) →
              S.LeadsTo ref (M.lookup :: between.map lookup) (M.scope.columnPath ref) ∧
              (n.binds reached qualifier = true →
                S.LeadsTo ref (joinLookup n reached joined :: M.lookup :: between.map lookup)
                  path) := by
  constructor
  · intro n hn
    obtain ⟨q, hPlanned, _⟩ := h.exists_planAll
    exact JoinNode.exists_visits _ hPlanned hn
  intro n reached hVisits
  obtain ⟨inner, joined, hJoined, hStage⟩ := h.exists_joined hVisits
  refine ⟨inner, joined, hJoined, hStage, ?_⟩
  intro e he ref hRef qualifier hQualifier hFree
  refine ⟨inner.scope.columnPath ref, rfl, ?_, ?_, ?_⟩
  · exact hJoined.columnPath_of_not_binds hQualifier
  · intro hNamed
    exact hVisits.binds_eq_false hNamed hFree
  · intro between S outer hLevels hDeclares hBetween
    rw [hLevels] at h
    have hOuter := hVisits.mem_outerColumns he hRef hQualifier hFree
    refine ⟨h.leadsTo_outer hOuter hQualifier hDeclares hBetween, ?_⟩
    exact h.leadsTo_join hVisits hJoined he hRef hQualifier hFree hDeclares hBetween

end Level

namespace Statement

open Level

def productsOfOwner : JoinNode :=
  ⟨"Products", some "p", .inner,
    some (.binary .equal (.column ⟨some "p", "Owner", .int32⟩)
      (.column ⟨some "o", "Owner", .int32⟩)), []⟩

def itemsOfOwner : Statement :=
  ⟨"Items", some "i", [], none, [productsOfOwner], [], none, [], none, none⟩

def ordersWithOwnedItems : Statement :=
  ⟨"Orders", some "o", [⟨.aggregate ⟨.exists, none, some itemsOfOwner⟩, some "Owned"⟩], none, [], [],
    none, [], none, none⟩

theorem exists_compile_ordersWithOwnedItems : ∃ r, ordersWithOwnedItems.compile false = .ok r :=
  ⟨_, rfl⟩

theorem exists_visitsJoin_productsOfOwner :
    ∃ M L reached, Stack false ordersWithOwnedItems [M, L] ∧ M.statement = itemsOfOwner ∧
      L.statement = ordersWithOwnedItems ∧ M.VisitsJoin false productsOfOwner reached := by
  obtain ⟨⟨plan, context⟩, hCompiled⟩ := exists_compile_ordersWithOwnedItems
  obtain ⟨L, hL, ⟨hOrders, hTarget⟩, _⟩ := Stack.exists_outermost hCompiled
  have hSource : ordersWithOwnedItems.expressions =
      [.aggregate ⟨.exists, none, some itemsOfOwner⟩] := rfl
  obtain ⟨M, hM, _, hItems⟩ := hL.exists_nested_of_single hTarget (by rw [hOrders, hSource])
  obtain ⟨q, hPlanned, _⟩ := hM.exists_planAll
  have hJoin : productsOfOwner ∈ JoinNode.preorder M.statement.joins := by
    rw [hItems]
    exact .head _
  obtain ⟨reached, hVisits⟩ := JoinNode.exists_visits _ hPlanned hJoin
  exact ⟨M, L, reached, hM, hItems, hOrders, hVisits⟩

theorem declares_productsOfOwner {M L : Level} (hItems : M.statement = itemsOfOwner)
    (hOrders : L.statement = ordersWithOwnedItems) :
    M.declares "o" = false ∧ L.declares "o" = true ∧
      ∀ n ∈ M.statement.joinNodes, n.declaredAlias ≠ "" := by
  rw [declares, declares, hItems, hOrders]
  refine ⟨rfl, rfl, ?_⟩
  rintro n (_ | ⟨_, ⟨⟩⟩)
  decide

theorem columns_of_join_condition_productsOfOwner :
    ∃ M L reached inner, Stack false ordersWithOwnedItems [M, L] ∧
      M.VisitsJoin false productsOfOwner reached ∧
      Site.compile (inner.site false) (.column ⟨some "o", "Owner", .int32⟩) =
        .ok (.field "$Owner") ∧
      L.LeadsTo ⟨some "o", "Owner", .int32⟩ [M.lookup]
        (M.scope.columnPath ⟨some "o", "Owner", .int32⟩) ∧
      ∃ joined, productsOfOwner.Joined false reached inner joined ∧
        ⟨.lookup, .document (joinLookup productsOfOwner reached joined)⟩ ∈
          M.planning.plan.stages := by
  obtain ⟨M, L, reached, hStack, hItems, hOrders, hVisits⟩ := exists_visitsJoin_productsOfOwner
  obtain ⟨hFree, hDeclares, hTables⟩ := declares_productsOfOwner hItems hOrders
  obtain ⟨inner, joined, hJoined, hStage, hColumns⟩ :=
    (Stack.columns_of_join_condition hStack).2 productsOfOwner reached hVisits
  obtain ⟨path, hPath, hOwn, hNamed, hLeads⟩ := hColumns _ rfl ⟨some "o", "Owner", .int32⟩
    (.tail _ (.head _)) "o" rfl hFree
  obtain rfl : path = "$Owner" := hOwn (hNamed hTables)
  obtain ⟨hLookup, _⟩ := hLeads [] L [] rfl hDeclares nofun
  exact ⟨M, L, reached, inner, hStack, hVisits, hPath, hLookup, joined, hJoined, hStage⟩

/-- Whether the columns that a join condition takes from statements further out are read from
variables that lead there. -/
def CorrelatesJoinConditions (caseSensitive : Bool) (s : Statement) : Prop :=
  ∀ M L rest, Stack caseSensitive s (M :: L :: rest) →
    ∀ n reached inner joined, M.VisitsJoin caseSensitive n reached →
      n.Joined caseSensitive reached inner joined →
      ∀ e, n.condition = some e → ∀ ref ∈ e.outerColumns [], ∀ qualifier,
        ref.qualifier = some qualifier → M.declares qualifier = false →
        ∀ between S outer, L :: rest = between ++ S :: outer → S.declares qualifier = true →
          (∀ N ∈ between, N.declares qualifier = false) →
          ∃ path, Site.compile (inner.site caseSensitive) (.column ref) = .ok (.field path) ∧
            S.LeadsTo ref (joinLookup n reached joined :: M.lookup :: between.map lookup) path

theorem not_correlatesJoinConditions :
    (∃ r, ordersWithOwnedItems.compile false = .ok r) ∧
      ¬ ordersWithOwnedItems.CorrelatesJoinConditions false := by
  refine ⟨exists_compile_ordersWithOwnedItems, ?_⟩
  intro h
  obtain ⟨M, L, reached, hStack, hItems, hOrders, hVisits⟩ := exists_visitsJoin_productsOfOwner
  obtain ⟨hFree, hDeclares, hTables⟩ := declares_productsOfOwner hItems hOrders
  obtain ⟨inner, joined, hJoined, _⟩ := hStack.exists_joined hVisits
  obtain ⟨path, hPath, _, _, index, _, hVariable, _⟩ := h M L [] hStack productsOfOwner reached
    inner joined hVisits hJoined _ rfl ⟨some "o", "Owner", .int32⟩ (.tail _ (.head _)) "o" rfl hFree
    [] L [] rfl hDeclares nofun
  have hOwn : inner.scope.columnPath ⟨some "o", "Owner", .int32⟩ = "$Owner" :=
    hJoined.columnPath_of_not_binds rfl (hVisits.binds_eq_false hTables hFree)
  have hField : path = "$Owner" := by
    rw [← hOwn]
    exact (Operand.field.inj (Except.ok.inj hPath)).symm
  rw [hField] at hVariable
  -- A variable starts with two dollar signs, the field with one.
  have hSecond := congrArg String.toList hVariable
  rw [String.toList_append] at hSecond
  exact absurd (List.cons.inj (List.cons.inj hSecond).2).1 (by decide)

end Statement

end RelPipe
