import RelPipe.Proofs.CaselessMap
import RelPipe.Proofs.Scoping.Correlations
import RelPipe.Proofs.Scoping.Planning
import RelPipe.Compile.Projection

/-!
Columns across nested statements. A column belongs to the innermost statement that declares its
qualifier. Within that statement it is read from its path; within the statements nested in it, it
is read from a variable, and the bindings of the lookups lead from there to the path.
-/

namespace RelPipe

set_option autoImplicit false

theorem AliasTable.fieldPath_congr (t : AliasTable) {a b : String}
    (h : Text.lower a = Text.lower b) (column : String) :
    t.fieldPath (some a) column = t.fieldPath (some b) column := by
  unfold fieldPath
  simp only [Option.getD_some, t.paths.get?_congr h]

theorem AliasTable.fieldPath_rooted (root : String) (qualifier : Option String) (column : String) :
    (rooted root).fieldPath qualifier column = "$" ++ ColumnName.normalize column := by
  unfold fieldPath
  dsimp only
  split
  · rename_i path hPath
    have hEmpty : path = "" := by
      obtain ⟨e, hFound, rfl⟩ := Option.map_eq_some_iff.mp hPath
      have hMem := List.mem_of_find?_eq_some hFound
      rw [List.mem_singleton.mp hMem]
    rw [if_pos hEmpty]
  · rfl

theorem Scope.columnPath_of_nameOf? {s : Scope} {ref : ColumnRef} {qualifier : String}
    (hQualifier : ref.qualifier = some qualifier) {name : String}
    (h : s.correlations.nameOf? (.of qualifier ref.name) = some name) :
    s.columnPath ref = "$$" ++ name := by
  rw [columnPath, hQualifier, Option.getD_some, h]

theorem CorrelationKey.of_eq_iff {a b column other : String} :
    CorrelationKey.of a column = .of b other ↔
      Text.lower a = Text.lower b ∧ foldName column = foldName other := by
  simp [CorrelationKey.of]

namespace Lookup

def binding? (lookup : Document) (name : String) : Option Value :=
  match Fields.get? lookup "let" with
  | some (.document bindings) => Fields.get? bindings name
  | _ => none

theorem binding?_lookupDocument (collection field : String) {cs : Correlations} (h : cs ≠ [])
    (plan : Plan) (name : String) :
    binding? (lookupDocument collection field cs plan) name = Fields.get? cs.toDocument name := by
  cases cs with
  | nil => exact absurd rfl h
  | cons c cs => rfl

/-- The bindings of the lookups, from the innermost outwards, lead from a variable to a path. -/
def Follows : List Document → String → String → Prop
  | [], path, target => path = target
  | lookup :: outer, path, target =>
    ∃ index next, path = "$$" ++ Correlations.variableName index ∧
      binding? lookup (Correlations.variableName index) = some (.string next) ∧
      Follows outer next target

end Lookup

theorem Plan.stages_prefix_addPaging (p : Plan) (kind : StageKind) (n : Option UInt64) :
    p.stages <+: (p.addPaging kind n).stages := by
  unfold addPaging
  split
  · exact List.prefix_refl _
  · split
    · exact List.prefix_refl _
    · exact p.stages_prefix_add kind _

theorem Planning.extends_project {p q : Planning} {site : Site} {s : Statement}
    {names : List String} (h : p.project site s names = .ok q) :
    q.scope = p.scope ∧ p.plan.stages <+: q.plan.stages := by
  obtain ⟨projection, _, h⟩ := exists_of_bind_eq_ok h
  obtain ⟨sorting, _, h⟩ := exists_of_bind_eq_ok h
  have hStages : ∀ r : Planning, r.plan.stages <+:
      ((r.plan.addPaging .skip s.skip).addPaging .limit s.limit).stages := fun r =>
    (r.plan.stages_prefix_addPaging _ _).trans (Plan.stages_prefix_addPaging _ _ _)
  have hSorted := (extends_add p .project sorting.stage).trans (extends_add _ .sort sorting.order)
  cases h
  split
  · exact ⟨rfl, ((hSorted.trans (extends_add _ .project projection.final)).stages).trans (hStages _)⟩
  · exact ⟨rfl, hSorted.stages.trans (hStages _)⟩

/-- A statement as it has been planned: what a subquery reduces it to, its plan and grouping, and
the body of the stage that attaches it. -/
structure Level where
  statement : Statement
  target : Option Expression
  planning : Planning
  grouping : Grouping
  lookup : Document

namespace Level

variable {caseSensitive : Bool} {s : Statement}

def scope (L : Level) : Scope := L.planning.scope

def declares (L : Level) (name : String) : Bool := L.statement.declared.contains name

/-- Expressions that are compiled within a level, outside of its join conditions. -/
def HasPart (L : Level) (q : Expression) : Prop :=
  ∃ e ∈ L.target.toList ++ L.statement.expressions, q.LocalPart e

def outerColumns (L : Level) : List ColumnRef :=
  Expression.outerColumnsAll [L.statement.declared] (L.target.toList ++ L.statement.expressions) ++
    JoinNode.outerColumnsAll [L.statement.declared] L.statement.joins

theorem outerColumns_subquery (L : Level) (kind : AggregateKind) :
    Aggregate.outerColumns [] ⟨kind, L.target, some L.statement⟩ = L.outerColumns :=
  Aggregate.outerColumns_subquery [] kind L.target L.statement

theorem mem_outerColumns {L : Level} {q : Expression} (hq : L.HasPart q) {ref : ColumnRef}
    (hRef : ref ∈ q.outerColumns []) {qualifier : String} (hQualifier : ref.qualifier = some qualifier)
    (hFree : L.declares qualifier = false) : ref ∈ L.outerColumns := by
  obtain ⟨e, he, hPart⟩ := hq
  rw [← L.outerColumns_subquery .count]
  exact Aggregate.mem_outerColumns_of_localPart he hPart hRef
    ((ColumnRef.isFree_iff hQualifier).mpr hFree)

theorem declares_of_mem_outerColumns {L : Level} {ref : ColumnRef} (h : ref ∈ L.outerColumns)
    {qualifier : String} (hQualifier : ref.qualifier = some qualifier) :
    L.declares qualifier = false := by
  rw [← L.outerColumns_subquery .count] at h
  exact (ColumnRef.isFree_iff hQualifier).mp (Aggregate.isFree_of_mem_outerColumns h)

/-- One level is the plan of a subquery of another. -/
def Nests (caseSensitive : Bool) (L M : Level) : Prop :=
  ∃ kind, L.HasPart (.aggregate ⟨kind, M.target, some M.statement⟩) ∧
    L.planning.Attached caseSensitive ⟨kind, M.target, some M.statement⟩ M.statement M.planning
      M.grouping M.lookup

/-- A level and the levels around it, from the innermost to that of the whole statement. -/
inductive Stack (caseSensitive : Bool) (s : Statement) : List Level → Prop where
  | outermost {L : Level} (hStatement : L.statement = s) (hTarget : L.target = none)
    (hPlanned : s.planSource caseSensitive [] = .ok (L.planning, L.grouping)) :
    Stack caseSensitive s [L]
  | nested {L M : Level} {rest : List Level} (h : Stack caseSensitive s (L :: rest))
    (hNests : L.Nests caseSensitive M) : Stack caseSensitive s (M :: L :: rest)

theorem Nests.correlations {L M : Level} (h : L.Nests caseSensitive M) :
    M.scope.correlations =
      Correlations.bindColumns (fun _ => true) L.scope.columnPath [] M.outerColumns := by
  obtain ⟨kind, _, hAttached⟩ := h
  rw [scope, Statement.correlations_planSource hAttached.planned,
    Planning.subqueryCorrelations_eq, outerColumns_subquery]
  rfl

theorem Nests.binding? {L M : Level} (h : L.Nests caseSensitive M)
    (hSome : M.scope.correlations ≠ []) (name : String) :
    Lookup.binding? M.lookup name = Fields.get? M.scope.correlations.toDocument name := by
  obtain ⟨kind, _, hAttached⟩ := h
  obtain ⟨reduced, field, hReduced, hLookup, _⟩ := hAttached.reduced
  have hScope : reduced.scope.correlations = M.scope.correlations := by
    rw [(Planning.extends_reduce hReduced).2]
    rfl
  rw [hLookup, hScope, Lookup.binding?_lookupDocument _ _ hSome]

theorem Nests.mem_outerColumns {L M : Level} (h : L.Nests caseSensitive M) {ref : ColumnRef}
    (hRef : ref ∈ M.outerColumns) {qualifier : String} (hQualifier : ref.qualifier = some qualifier)
    (hFree : L.declares qualifier = false) : ref ∈ L.outerColumns := by
  obtain ⟨kind, hPart, _⟩ := h
  rw [← M.outerColumns_subquery kind] at hRef
  exact Level.mem_outerColumns hPart hRef hQualifier hFree

/-- A column from outside is read from a variable, and the lookup binds the variable to what the
level around it reads for that column. -/
theorem Nests.columnPath {L M : Level} (h : L.Nests caseSensitive M) {ref : ColumnRef}
    (hRef : ref ∈ M.outerColumns) {qualifier : String}
    (hQualifier : ref.qualifier = some qualifier) :
    ∃ index, ∃ ref' ∈ M.outerColumns, ∃ qualifier', ref'.qualifier = some qualifier' ∧
      CorrelationKey.of qualifier' ref'.name = .of qualifier ref.name ∧
      M.scope.columnPath ref = "$$" ++ Correlations.variableName index ∧
      Lookup.binding? M.lookup (Correlations.variableName index) =
        some (.string (L.scope.columnPath ref')) := by
  obtain ⟨index, ref', hRef', qualifier', hQualifier', hKey, hName, hValue⟩ :=
    @Correlations.exists_nameOf?_bindColumns (fun _ => true) L.scope.columnPath _ _ hRef _
      hQualifier rfl
  rw [← h.correlations] at hName hValue
  refine ⟨index, ref', hRef', qualifier', hQualifier', hKey, ?_, ?_⟩
  · exact Scope.columnPath_of_nameOf? hQualifier hName
  · have hSome : M.scope.correlations ≠ [] := by
      intro hNil
      rw [hNil] at hName
      cases hName
    rw [h.binding? hSome, hValue]

theorem Stack.columnPath {S : Level} {outer : List Level}
    (h : Stack caseSensitive s (S :: outer)) {ref : ColumnRef} {qualifier : String}
    (hQualifier : ref.qualifier = some qualifier) (hDeclares : S.declares qualifier = true) :
    S.scope.columnPath ref = S.scope.aliases.fieldPath ref.qualifier ref.name := by
  have hNone : S.scope.correlations.nameOf? (.of qualifier ref.name) = none := by
    cases h with
    | outermost _ _ hPlanned =>
      rw [scope, Statement.correlations_planSource hPlanned]
      rfl
    | nested _ hNests =>
      rw [hNests.correlations]
      refine Correlations.nameOf?_bindColumns_eq_none ?_
      intro ref' hRef' qualifier' hQualifier' _ hKey
      have hFree := declares_of_mem_outerColumns hRef' hQualifier'
      rw [declares, CaselessMap.contains_congr _ (CorrelationKey.of_eq_iff.mp hKey).1] at hFree
      rw [declares, hFree] at hDeclares
      cases hDeclares
  rw [Scope.columnPath, hQualifier, Option.getD_some, hNone]

/-- The bindings of lookups lead to a column in the documents of a level, up to the letter case of
its name. -/
def LeadsTo (S : Level) (ref : ColumnRef) (lookups : List Document) (path : String) : Prop :=
  ∃ name, foldName name = foldName ref.name ∧
    Lookup.Follows lookups path (S.scope.aliases.fieldPath ref.qualifier name)

theorem LeadsTo.congr {S : Level} {ref ref' : ColumnRef} {qualifier qualifier' : String}
    (hQualifier : ref.qualifier = some qualifier) (hQualifier' : ref'.qualifier = some qualifier')
    (hKey : CorrelationKey.of qualifier' ref'.name = .of qualifier ref.name)
    {lookups : List Document} {path : String} (h : S.LeadsTo ref' lookups path) :
    S.LeadsTo ref lookups path := by
  obtain ⟨hSame, hColumn⟩ := CorrelationKey.of_eq_iff.mp hKey
  obtain ⟨name, hName, hFollows⟩ := h
  rw [hQualifier', AliasTable.fieldPath_congr _ hSame, ← hQualifier] at hFollows
  exact ⟨name, hName.trans hColumn, hFollows⟩

theorem LeadsTo.cons {S : Level} {ref : ColumnRef} {lookup : Document} {lookups : List Document}
    {index : Nat} {next : String}
    (hValue : Lookup.binding? lookup (Correlations.variableName index) = some (.string next))
    (h : S.LeadsTo ref lookups next) :
    S.LeadsTo ref (lookup :: lookups) ("$$" ++ Correlations.variableName index) := by
  obtain ⟨name, hName, hFollows⟩ := h
  exact ⟨name, hName, index, next, rfl, hValue, hFollows⟩

/-- Each level binds its outer columns to what the next one reads for them, so the bindings lead to
the level that declares the qualifier. The spelling of a column may change on the way, since a
variable takes the first one. -/
theorem Stack.leadsTo {S : Level} {inner outer : List Level}
    (h : Stack caseSensitive s (inner ++ S :: outer)) {ref : ColumnRef} {qualifier : String}
    (hQualifier : ref.qualifier = some qualifier) (hDeclares : S.declares qualifier = true)
    (hInner : ∀ M ∈ inner, M.declares qualifier = false)
    (hOuter : ∀ M, inner.head? = some M → ref ∈ M.outerColumns) :
    S.LeadsTo ref (inner.map lookup) ((inner.headD S).scope.columnPath ref) := by
  induction inner generalizing ref qualifier with
  | nil => exact ⟨ref.name, rfl, h.columnPath hQualifier hDeclares⟩
  | cons M inner ih =>
    obtain ⟨_, hInner⟩ := List.forall_mem_cons.mp hInner
    obtain ⟨hRest, hNests⟩ : Stack caseSensitive s (inner ++ S :: outer) ∧
        (inner.headD S).Nests caseSensitive M := by
      cases inner with
      | nil => cases h with
        | nested hRest hNests => exact ⟨hRest, hNests⟩
      | cons L inner => cases h with
        | nested hRest hNests => exact ⟨hRest, hNests⟩
    obtain ⟨index, ref', hRef', qualifier', hQualifier', hKey, hPath, hValue⟩ :=
      hNests.columnPath (hOuter M rfl) hQualifier
    have hSame : ∀ L : Level, L.declares qualifier' = L.declares qualifier := fun L =>
      CaselessMap.contains_congr _ (CorrelationKey.of_eq_iff.mp hKey).1
    have hInner' : ∀ L ∈ inner, L.declares qualifier' = false := by
      intro L hL
      rw [hSame, hInner L hL]
    have hOuter' : ∀ L, inner.head? = some L → ref' ∈ L.outerColumns := by
      intro L hL
      have hHead : inner.headD S = L := by rw [List.headD_eq_head?_getD, hL, Option.getD_some]
      rw [hHead] at hNests
      exact hNests.mem_outerColumns hRef' hQualifier' (hInner' L (List.mem_of_head? hL))
    have hNext := ih hRest hQualifier' (by rw [hSame, hDeclares]) hInner' hOuter'
    have hTop : ((M :: inner).headD S).scope.columnPath ref =
        "$$" ++ Correlations.variableName index := hPath
    rw [hTop]
    exact .cons hValue (hNext.congr hQualifier hQualifier' hKey)

theorem Stack.exists_outermost {plan : Plan} {context : Context}
    (h : s.compile caseSensitive = .ok (plan, context)) :
    ∃ L, Stack caseSensitive s [L] ∧ (L.statement = s ∧ L.target = none) ∧
      L.scope = context.scope ∧ L.planning.plan.stages <+: plan.stages := by
  obtain ⟨⟨p, g⟩, hPlanned, h⟩ := exists_of_bind_eq_ok h
  obtain ⟨q, hProjected, h⟩ := exists_of_bind_eq_ok h
  cases h
  obtain ⟨hScope, hStages⟩ := Planning.extends_project hProjected
  exact ⟨⟨s, none, p, g, []⟩, .outermost rfl rfl hPlanned, ⟨rfl, rfl⟩, hScope.symm, hStages⟩

theorem Stack.planned {L : Level} {outer : List Level} (h : Stack caseSensitive s (L :: outer)) :
    ∃ cs, L.statement.planSource caseSensitive cs = .ok (L.planning, L.grouping) := by
  cases h with
  | outermost hStatement _ hPlanned => exact ⟨[], by rw [hStatement, hPlanned]⟩
  | nested _ hNests =>
    obtain ⟨_, _, hAttached⟩ := hNests
    exact ⟨_, hAttached.planned⟩

theorem Stack.exists_narrow {L : Level} {outer : List Level}
    (h : Stack caseSensitive s (L :: outer)) :
    ∃ p : Planning, p.scope = L.scope ∧
      p.narrow caseSensitive L.statement = .ok (L.planning, L.grouping) := by
  obtain ⟨cs, hPlanned⟩ := h.planned
  obtain ⟨_, p, _, _, hNarrow⟩ := Statement.exists_of_planSource hPlanned
  exact ⟨p, (Planning.extends_narrow hNarrow).2.symm, hNarrow⟩

theorem Stack.exists_nested {L : Level} {outer : List Level}
    (h : Stack caseSensitive s (L :: outer)) {a : Aggregate} (ha : L.statement.HasSubquery a)
    (hStatement : a.statement ≠ none) :
    ∃ M kind, Stack caseSensitive s (M :: L :: outer) ∧
      Aggregate.signature ⟨kind, M.target, some M.statement⟩ = a.signature := by
  obtain ⟨cs, hPlanned⟩ := h.planned
  obtain ⟨⟨kind, target, statement⟩, s', planning, grouping, lookup, hb, hSignature, hAttached⟩ :=
    Statement.exists_attached hPlanned ha hStatement
  obtain rfl : statement = some s' := hAttached.statement
  obtain ⟨e, he, hPart⟩ := hb
  exact ⟨⟨s', target, planning, grouping, lookup⟩, kind,
    h.nested ⟨kind, ⟨e, List.mem_append_right _ he, hPart⟩, hAttached⟩, hSignature⟩

end Level

open Level in
/-- A compiled statement and the statements nested in it form levels, which compile their
expressions in their own scopes. A qualified column is read from its path in the level that declares
the qualifier; in the levels within that one it is read from a variable, and the bindings of the
lookups lead from there to the path. -/
theorem Statement.columns_lead_to_declaration {caseSensitive : Bool} {s : Statement} {plan : Plan}
    {context : Context} (h : s.compile caseSensitive = .ok (plan, context)) :
    (∃ L, Stack caseSensitive s [L] ∧ L.scope = context.scope ∧
      L.planning.plan.stages <+: plan.stages) ∧
    (∀ L outer, Stack caseSensitive s (L :: outer) →
      (∃ p : Planning, p.scope = L.scope ∧
        p.narrow caseSensitive L.statement = .ok (L.planning, L.grouping)) ∧
      ∀ a, L.statement.HasSubquery a → a.statement ≠ none →
        ∃ M kind, Stack caseSensitive s (M :: L :: outer) ∧
          Aggregate.signature ⟨kind, M.target, some M.statement⟩ = a.signature) ∧
    ∀ inner S outer, Stack caseSensitive s (inner ++ S :: outer) →
      ∀ ref qualifier, ref.qualifier = some qualifier → S.declares qualifier = true →
        (∀ M ∈ inner, M.declares qualifier = false) →
        (inner.headD S).HasPart (.column ref) →
        ∀ g : Grouping, g.operand? (.column ref) = none →
          ∃ path,
            Site.compile ⟨(inner.headD S).scope, g, caseSensitive⟩ (.column ref) =
              .ok (.field path) ∧
            (inner = [] → path = S.scope.aliases.fieldPath ref.qualifier ref.name) ∧
            S.LeadsTo ref (inner.map lookup) path := by
  refine ⟨?_, ?_, ?_⟩
  · obtain ⟨L, hStack, _, hCompiled⟩ := Stack.exists_outermost h
    exact ⟨L, hStack, hCompiled⟩
  · intro L outer hStack
    exact ⟨hStack.exists_narrow, fun a ha hStatement => hStack.exists_nested ha hStatement⟩
  · intro inner S outer hStack ref qualifier hQualifier hDeclares hInner hPart
    have hOuter : ∀ M, inner.head? = some M → ref ∈ M.outerColumns := by
      intro M hM
      have hHead : inner.headD S = M := by rw [List.headD_eq_head?_getD, hM, Option.getD_some]
      rw [hHead] at hPart
      exact mem_outerColumns hPart (ColumnRef.mem_outerColumns hQualifier) hQualifier
        (hInner M (List.mem_of_head? hM))
    intro g hg
    refine ⟨(inner.headD S).scope.columnPath ref, ?_, ?_, ?_⟩
    · rw [Site.compile.eq_def]
      dsimp only
      rw [hg]
    · rintro rfl
      exact hStack.columnPath hQualifier hDeclares
    · exact hStack.leadsTo hQualifier hDeclares hInner hOuter

def Statement.wheelsOfOrder : Statement :=
  ⟨"wheels", some "w", [],
    some (.binary .equal (.column ⟨some "w", "car", .int32⟩) (.column ⟨some "O", "Car", .int32⟩)),
    [], [], none, [], none, none⟩

def Statement.enginesWithWheels : Statement :=
  ⟨"engines", some "e", [], some (.aggregate ⟨.exists, none, some wheelsOfOrder⟩), [], [], none, [],
    none, none⟩

def Statement.ordersWithWheels : Statement :=
  ⟨"orders", some "o", [], some (.aggregate ⟨.exists, none, some enginesWithWheels⟩), [], [], none,
    [], none, none⟩

/-- A level whose only expression is a subquery has the level of that subquery. -/
theorem Level.Stack.exists_nested_of_single {caseSensitive : Bool} {s inner : Statement} {L : Level}
    {outer : List Level} (h : Stack caseSensitive s (L :: outer)) {kind : AggregateKind}
    {target : Option Expression} (hTarget : L.target = none)
    (hExpressions : L.statement.expressions = [.aggregate ⟨kind, target, some inner⟩]) :
    ∃ M, Stack caseSensitive s (M :: L :: outer) ∧ M.target = target ∧ M.statement = inner := by
  have hSubquery : L.statement.HasSubquery ⟨kind, target, some inner⟩ :=
    ⟨_, by rw [hExpressions]; exact List.mem_singleton.mpr rfl, .self _⟩
  obtain ⟨M, _, hStack, _⟩ := h.exists_nested hSubquery nofun
  refine ⟨M, hStack, ?_⟩
  cases hStack with
  | nested _ hNests =>
    obtain ⟨_, ⟨e, he, hPart⟩, _⟩ := hNests
    rw [hTarget, hExpressions] at he
    obtain rfl := List.mem_singleton.mp he
    cases hPart with
    | self => exact ⟨rfl, rfl⟩
    | child hc _ => cases hc

open Level in
theorem Statement.columns_lead_to_declaration_twice_nested :
    ∃ plan context, ordersWithWheels.compile true = .ok (plan, context) ∧
      ∃ W E O, Stack true ordersWithWheels [W, E, O] ∧
        W.statement = wheelsOfOrder ∧ O.statement = ordersWithWheels ∧
        ∃ path,
          Site.compile ⟨W.scope, .empty, true⟩ (.column ⟨some "O", "Car", .int32⟩) =
            .ok (.field path) ∧
          O.LeadsTo ⟨some "O", "Car", .int32⟩ [W.lookup, E.lookup] path := by
  obtain ⟨⟨plan, context⟩, hCompiled⟩ : ∃ r, ordersWithWheels.compile true = .ok r := ⟨_, rfl⟩
  obtain ⟨⟨O, hO, _, _⟩, _, hColumns⟩ := columns_lead_to_declaration hCompiled
  obtain ⟨hOrders, hTarget⟩ : O.statement = ordersWithWheels ∧ O.target = none := by
    cases hO with
    | outermost hStatement hTarget _ => exact ⟨hStatement, hTarget⟩
  have hSource : ordersWithWheels.expressions =
      [.aggregate ⟨.exists, none, some enginesWithWheels⟩] := rfl
  obtain ⟨E, hE, hTarget, hEngines⟩ :=
    hO.exists_nested_of_single hTarget (by rw [hOrders, hSource])
  have hSource : enginesWithWheels.expressions =
      [.aggregate ⟨.exists, none, some wheelsOfOrder⟩] := rfl
  obtain ⟨W, hW, _, hWheels⟩ := hE.exists_nested_of_single hTarget (by rw [hEngines, hSource])
  have hDeclares : O.declares "O" = true := by
    rw [declares, hOrders]
    rfl
  have hInner : ∀ M ∈ [W, E], M.declares "O" = false := by
    rintro M (_ | ⟨_, _ | ⟨_, ⟨⟩⟩⟩)
    · rw [declares, hWheels]
      rfl
    · rw [declares, hEngines]
      rfl
  have hPart : W.HasPart (.column ⟨some "O", "Car", .int32⟩) := by
    have hCondition : .binary .equal (.column ⟨some "w", "car", .int32⟩)
        (.column ⟨some "O", "Car", .int32⟩) ∈ W.statement.expressions := by
      rw [hWheels]
      exact .head _
    exact ⟨_, List.mem_append_right _ hCondition, .child (.tail _ (.head _)) (.self _)⟩
  obtain ⟨path, hPath, _, hLeads⟩ := hColumns [W, E] O [] hW ⟨some "O", "Car", .int32⟩ "O" rfl
    hDeclares hInner hPart .empty rfl
  exact ⟨plan, context, hCompiled, W, E, O, hW, hWheels, hOrders, path, hPath, hLeads⟩

end RelPipe
