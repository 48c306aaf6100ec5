import RelPipe.Proofs.Grouping.ColumnGroups
import RelPipe.Proofs.Planning.Nesting
import RelPipe.Proofs.Planning.StageReads
import RelPipe.Proofs.Planning.Steps
import RelPipe.Proofs.Projection.Stages

/-!
The rows of a statement that groups by columns. There is one for each group of documents, in the
order of the first documents of the groups; it shows the key of the group and the aggregates over
its documents. Names that differ in letter case only are the same name here: keys and aggregates of
one signature share what the first of them reads.
-/

namespace RelPipe

set_option autoImplicit false

open Pipeline

namespace Statement

def groupKey (s : Statement) (e : Expression) : Expression :=
  (s.groupBy.find? fun k => k.signature = e.signature).getD e

def groupAggregate (s : Statement) (a : Aggregate) : Aggregate :=
  (((s.operands.map (·.expression)).flatMap Expression.localAggregates).find?
    fun b => b.signature = a.signature).getD a

def keyTuple (s : Statement) (d : Document) : List Value :=
  s.groupBy.map fun e => (s.groupKey e).valueIn d

/-- Two documents have the same key if it is equal value by value. -/
def SameKey (s : Statement) (d d' : Document) : Prop :=
  List.Forall₂ (fun v w => v.compare w = .eq) (s.keyTuple d) (s.keyTuple d')

instance (s : Statement) : DecidableRel s.SameKey :=
  fun d d' => inferInstanceAs (Decidable (List.Forall₂ _ (s.keyTuple d) (s.keyTuple d')))

def cell (s : Statement) (g : DocumentGroup) : Expression → Value
  | .aggregate a => a.kind.total (g.documents.map (s.groupAggregate a).valueIn)
  | e => (s.groupKey e).valueIn g.first

def row (s : Statement) (g : DocumentGroup) : Document :=
  s.outputs.map fun field => (field.1, s.cell g field.2)

def Filters (caseSensitive : Bool) (s : Statement) (documents kept : List Document) : Prop :=
  match s.condition with
  | none => kept = documents
  | some e => ∃ body,
    (Site.rooted (s.aliasName.getD "") caseSensitive).filterDocument e = .ok body ∧
      filterStage [] body documents = .ok kept

/-- Statements that group the documents of one collection by columns and show group keys and
aggregates over columns, without a condition on the groups and in no order of their own. -/
structure GroupsByColumns (s : Statement) : Prop where
  joins : s.joins = []
  subqueries : ∀ a, s.HasSubquery a → a.statement = none
  having : s.having = none
  sorts : s.sorts = []
  skip : s.skip = none
  limit : s.limit = none
  grouped : s.groupBy ≠ []
  columns : ∀ e ∈ s.groupBy, ∃ ref, e = .column ref
  keyNames : ((Grouping.ofStatement s).keys.map GroupKey.name).Nodup
  operands : ∀ o ∈ s.operands, (∃ k ∈ s.groupBy, k.signature = o.expression.signature) ∨
    ∃ a : Aggregate, o.expression = .aggregate a ∧ a.OverColumn
  outputNames : (OutputColumn.fieldNames s.operands).Nodup
  undollared : ∀ e ∈ s.expressions, ∀ ref, (Expression.column ref).LocalPart e →
    Text.dollar (ColumnName.normalize ref.name) = false

end Statement

/-! The entries of the grouping -/

theorem Expression.eq_column_of_signature {e : Expression} {ref : ColumnRef}
    (h : (Expression.column ref).signature = e.signature) : ∃ other, e = .column other := by
  have hNormal := congrArg Signature.expression h
  cases e with
  | column other => exact ⟨other, rfl⟩
  | _ => simp [signature, normalized] at hNormal

theorem Statement.exists_key {s : Statement} {e : Expression}
    (h : ∃ k ∈ s.groupBy, k.signature = e.signature) :
    ∃ k, ((Grouping.ofStatement s).keys.find? fun k => k.signature = e.signature) = some k ∧
      k.expression = s.groupKey e := by
  have hFound : (s.groupBy.find? fun k => k.signature = e.signature).isSome = true := by
    rw [List.find?_isSome]
    obtain ⟨k, hk, hSignature⟩ := h
    exact ⟨k, hk, decide_eq_true hSignature⟩
  obtain ⟨first, hFirst⟩ := Option.isSome_iff_exists.mp hFound
  have hKeys : ((Grouping.ofStatement s).keys.find? fun k => k.signature = e.signature).map
      GroupKey.expression = some first :=
    (Grouping.find?_keysFrom [] 0 s.groupBy e.signature).trans hFirst
  obtain ⟨k, hk, rfl⟩ := Option.map_eq_some_iff.mp hKeys
  refine ⟨k, hk, ?_⟩
  rw [groupKey, hFirst, Option.getD_some]

theorem Aggregate.folded_of_signature {a b : Aggregate} (h : a.signature = b.signature) :
    a.kind.folded = b.kind.folded := by
  obtain ⟨kind, target, statement⟩ := a
  obtain ⟨kind', target', statement'⟩ := b
  have hNormal := Expression.aggregate.inj (congrArg Signature.expression h)
  exact congrArg Aggregate.kind hNormal

namespace Grouping

variable {g : Grouping} {e : Expression}

theorem operand?_of_keyName? (hEmpty : g.isEmpty = false) (hConstant : ∀ c, e ≠ .constant c)
    {name : String} (h : g.keyName? e.signature = some name) :
    g.operand? e = some (.field ("$_id." ++ name)) := by
  rw [operand?, hEmpty, if_neg Bool.false_ne_true, h]
  exact hConstant

theorem operand?_of_aggregate? (hEmpty : g.isEmpty = false) (hConstant : ∀ c, e ≠ .constant c)
    (hKey : g.keyName? e.signature = none) {a : GroupAggregate}
    (h : g.aggregate? e.signature = some a) (hKind : a.aggregate.kind ≠ .exists) :
    g.operand? e = some (.field ("$" ++ a.name)) := by
  rw [operand?, hEmpty, if_neg Bool.false_ne_true, hKey, h]
  · dsimp only [Option.map_some]
    split
    · rename_i hExists
      exact absurd hExists hKind
    · rfl
  · exact hConstant

end Grouping

namespace Statement.GroupsByColumns

variable {s : Statement} (hs : s.GroupsByColumns)

include hs

theorem operand_cases {e : Expression} (he : e ∈ s.operands.map (·.expression)) :
    (∃ ref, e = .column ref ∧ ∃ k ∈ s.groupBy, k.signature = e.signature) ∨
      ∃ a : Aggregate, e = .aggregate a ∧ a.OverColumn := by
  obtain ⟨o, ho, rfl⟩ := List.mem_map.mp he
  obtain ⟨k, hk, hSignature⟩ | hAggregate := hs.operands o ho
  · obtain ⟨ref, rfl⟩ := hs.columns k hk
    obtain ⟨other, hOther⟩ := Expression.eq_column_of_signature hSignature
    exact .inl ⟨other, hOther, _, hk, hSignature⟩
  · exact .inr hAggregate

theorem aggregates_eq :
    (Grouping.ofStatement s).aggregates =
      ((s.operands.map (·.expression)).flatMap Expression.localAggregates).foldl
        Grouping.addAggregate [] := by
  rw [Grouping.ofStatement, hs.having, hs.sorts, Option.toList_none, List.map_nil, List.append_nil,
    List.append_nil]

theorem overColumn_of_mem {a : Aggregate}
    (h : a ∈ (s.operands.map (·.expression)).flatMap Expression.localAggregates) :
    a.OverColumn ∧ .aggregate a ∈ s.operands.map (·.expression) := by
  obtain ⟨e, he, ha⟩ := List.mem_flatMap.mp h
  obtain ⟨ref, rfl, _⟩ | ⟨b, rfl, hOver⟩ := hs.operand_cases he
  · cases ha
  · have hSame : a = b := by cases hOver <;> exact List.mem_singleton.mp ha
    exact hSame ▸ ⟨hOver, he⟩

theorem byColumns : (Grouping.ofStatement s).ByColumns where
  keys := by
    obtain ⟨e, he⟩ := List.exists_mem_of_ne_nil _ hs.grouped
    obtain ⟨k, hk, _⟩ := exists_key ⟨e, he, rfl⟩
    exact List.ne_nil_of_mem (List.mem_of_find?_eq_some hk)
  names := hs.keyNames
  columns k hk := by
    have hMem := Grouping.mem_groupBy_of_mem_keys hk
    obtain ⟨ref, hRef⟩ := hs.columns _ hMem
    have hPart : (Expression.column ref).LocalPart k.expression := hRef ▸ .self k.expression
    exact ⟨ref, hRef, hs.undollared _ (mem_expressions.mpr (.inr (.inr (.inl hMem)))) ref hPart⟩
  undollared k hk := by
    refine Grouping.dollar_of_mem_keys (fun ref hRef => ?_) hk
    exact hs.undollared _ (mem_expressions.mpr (.inr (.inr (.inl hRef)))) ref (.self _)
  aggregates a ha := by
    have hMem : a.aggregate ∈
        (s.operands.map (·.expression)).flatMap Expression.localAggregates := by
      rw [hs.aggregates_eq] at ha
      obtain hNil | hMem := Grouping.mem_foldl_addAggregate ha
      · cases hNil
      · exact hMem
    obtain ⟨hOver, hOperand⟩ := hs.overColumn_of_mem hMem
    refine ⟨hOver, fun ref hTarget => ?_, ?_⟩
    · refine hs.undollared (.aggregate a.aggregate) ?_ ref (.child ?_ (.self _))
      · obtain ⟨o, ho, hExpression⟩ := List.mem_map.mp hOperand
        exact mem_expressions.mpr (.inl ⟨o, ho, hExpression⟩)
      · obtain ⟨name, aggregate⟩ := a
        cases hOver <;> cases hTarget
        exact .head _
    · obtain ⟨index, _, hName⟩ := Grouping.numbered_ofStatement s a ha
      intro hId
      have hFirst := congrArg (fun name : String => name.toList.head?) (hName.symm.trans hId)
      simp at hFirst

theorem isEmpty_ofStatement : (Grouping.ofStatement s).isEmpty = false := by
  rw [Grouping.isEmpty, List.isEmpty_eq_false_iff.mpr hs.byColumns.keys, Bool.false_and]

end Statement.GroupsByColumns

/-! The stages of the plan -/

section

variable {caseSensitive : Bool}

theorem Planning.AttachesAll.eq_of_none {wanted : Aggregate → Prop}
    (hNone : ∀ a, wanted a → a.statement = none) {p q : Planning}
    (h : AttachesAll caseSensitive wanted p q) : q = p := by
  induction h with
  | refl => rfl
  | tail _ hStep ih =>
    obtain ⟨a, ha, hAttaches⟩ := hStep
    cases hAttaches
    cases hNone _ ha

/-- Without sort keys and paging, the projection is the last stage. -/
theorem Planning.exists_of_project_unsorted {p q : Planning} {site : Site} {s : Statement}
    (hSorts : s.sorts = []) (hSkip : s.skip = none) (hLimit : s.limit = none)
    (h : p.project site s (OutputColumn.fieldNames s.operands) = .ok q) :
    ∃ specs, List.Forall₂ (Projection.Writes site) s.outputs specs ∧
      q.plan = ⟨p.plan.collection, p.plan.stages ++ [projectStage specs]⟩ := by
  obtain ⟨specs, helperSpecs, hSpecs, hHelpers, hPlan⟩ := Planning.exists_stages_of_project h
  have hNone : s.helpers site.grouping = [] := by
    rw [Statement.helpers, hSorts]
    rfl
  rw [hNone] at hHelpers
  cases hHelpers
  refine ⟨specs, hSpecs, ?_⟩
  rw [hPlan, Statement.order, hSorts, hSkip, hLimit, Statement.keeping, hNone, List.append_nil]
  rfl

theorem Statement.GroupsByColumns.exists_stages {s : Statement} (hs : s.GroupsByColumns)
    {plan : Plan} {ctx : Context} (h : s.compile caseSensitive = .ok (plan, ctx)) :
    ∃ filters body specs,
      (s.condition = none ∧ filters = [] ∨ ∃ e condition, s.condition = some e ∧
        (Site.rooted (s.aliasName.getD "") caseSensitive).filterDocument e = .ok condition ∧
        filters = [⟨.filter, .document condition⟩]) ∧
      (Grouping.ofStatement s).stageDocument (.rooted (s.aliasName.getD "") caseSensitive) =
        .ok body ∧
      List.Forall₂ (Projection.Writes
        ⟨.rooted (s.aliasName.getD "") [], .ofStatement s, caseSensitive⟩) s.outputs specs ∧
      plan = ⟨s.table, filters ++ [⟨.group, .document body⟩, projectStage specs]⟩ := by
  obtain ⟨⟨p, g⟩, hPlanned, h⟩ := exists_of_bind_eq_ok h
  obtain ⟨q, hProjected, h⟩ := exists_of_bind_eq_ok h
  cases h
  obtain ⟨joined, planned, hJoins, hSubqueries, hNarrow⟩ := s.exists_steps hPlanned
  -- Nothing is planned before the condition.
  obtain rfl : joined = Planning.start s.table (s.aliasName.getD "") [] := by
    rw [hs.joins] at hJoins
    cases hJoins with
    | refl => rfl
    | tail _ hStep =>
      obtain ⟨node, hNode, _⟩ := hStep
      cases hNode
  obtain rfl := hSubqueries.eq_of_none hs.subqueries
  obtain ⟨rfl, filtered, grouped, hFiltered, hGrouped, hKept⟩ := Planning.exists_narrowed hNarrow
  rw [hs.having] at hKept
  cases hKept
  obtain ⟨specs, hSpecs, hPlan⟩ :=
    Planning.exists_of_project_unsorted hs.sorts hs.skip hs.limit hProjected
  obtain ⟨hNone, _⟩ | ⟨_, body, hBody, rfl⟩ := hGrouped
  · exact absurd hNone (Bool.eq_false_iff.mp hs.isEmpty_ofStatement)
  have hGroupPlan : (filtered.add .group body).plan = ⟨filtered.plan.collection,
      filtered.plan.stages ++ [⟨.group, .document body⟩]⟩ :=
    Plan.add_eq _ _ (Grouping.stageDocument_ne_nil hBody)
  rw [hGroupPlan] at hPlan
  obtain ⟨hScope, hCondition⟩ := Planning.stages_filter hFiltered
  have hCollection : filtered.plan.collection = s.table := Planning.collection_filter hFiltered
  rw [hCollection] at hPlan
  have hSite : (filtered.add .group body).scope = .rooted (s.aliasName.getD "") [] := hScope
  rw [hSite] at hSpecs
  obtain ⟨hNone, hStages⟩ | ⟨e, condition, hSome, hClause, hStages⟩ := hCondition
  · refine ⟨[], body, specs, .inl ⟨hNone, rfl⟩, hBody, hSpecs, ?_⟩
    rw [hPlan, hStages]
    rfl
  · refine ⟨[⟨.filter, .document condition⟩], body, specs,
      .inr ⟨e, condition, hSome, hClause, rfl⟩, hBody, hSpecs, ?_⟩
    rw [hPlan, hStages]
    rfl

end

/-! What a group shows -/

namespace Statement.GroupsByColumns

variable {s : Statement} (hs : s.GroupsByColumns) (g : DocumentGroup) (vars : Variables)

include hs

theorem evaluate_key {k : GroupKey} (hk : k ∈ (Grouping.ofStatement s).keys) :
    evaluate ⟨(Grouping.ofStatement s).spec.summary g, vars⟩ (.string ("$_id." ++ k.name)) =
      .ok (k.expression.valueIn g.first) := by
  have hPath : "$_id." ++ k.name = "$" ++ ("_id" ++ "." ++ k.name) := by
    rw [← String.append_assoc, ← String.append_assoc]
    rfl
  have hDollar : Text.dollar ("_id" ++ "." ++ k.name) = false := by simp [Text.dollar]
  have hDistinct : Fields.Distinct
      ((Grouping.ofStatement s).keys.map fun k => (k.name, k.expression.valueIn g.first)) := by
    rw [Fields.Distinct, List.map_map]
    exact hs.keyNames
  have hFound := Fields.get?_of_mem hDistinct (List.mem_map.mpr ⟨k, hk, rfl⟩)
  rw [hPath, evaluate_field hDollar, Environment.fieldValue, Document.path?_dotted _ (by decide)]
  change Except.ok ((Document.path? _ k.name).getD _) = _
  rw [Document.path?_of_plain _ (Grouping.dot_not_mem_of_mem_keys hk), hFound, Option.getD_some]

theorem evaluate_aggregate {a : GroupAggregate} (ha : a ∈ (Grouping.ofStatement s).aggregates)
    (hSize : g.documents.length < 0x8000000000000000) :
    evaluate ⟨(Grouping.ofStatement s).spec.summary g, vars⟩ (.string ("$" ++ a.name)) =
      .ok (a.aggregate.kind.total (g.documents.map a.aggregate.valueIn)) := by
  obtain ⟨index, _, hName⟩ := Grouping.numbered_ofStatement s a ha
  have hDollar : Text.dollar a.name = false := by simp [hName, Text.dollar]
  have hDot : '.' ∉ a.name.toList := by
    rw [hName, String.toList_append, List.mem_append, not_or]
    exact ⟨by decide, Text.Numeral.not_mem_ofNat rfl index⟩
  have hDistinct : Fields.Distinct ((Grouping.ofStatement s).spec.summary g) := by
    have hNames : ((Grouping.ofStatement s).spec.summary g).map Prod.fst =
        "_id" :: (Grouping.ofStatement s).aggregates.map GroupAggregate.name := by
      rw [GroupSpec.summary, List.map_cons, List.map_map]
      rfl
    rw [Fields.Distinct, hNames, List.nodup_cons]
    refine ⟨fun hId => ?_, Grouping.nodup_names_aggregates s⟩
    obtain ⟨b, hb, hId⟩ := List.mem_map.mp hId
    exact (hs.byColumns.aggregates b hb).2.2 hId
  have hMem : (a.name, a.aggregate.kind.total (g.documents.map a.aggregate.valueIn)) ∈
      (Grouping.ofStatement s).spec.summary g := by
    refine .tail _ (List.mem_map.mpr ⟨a, ha, ?_⟩)
    rw [← AggregateKind.accumulated_operand (hs.byColumns.aggregates a ha).1.standard _ hSize]
    rfl
  rw [evaluate_field hDollar, Environment.fieldValue, Document.path?_of_plain _ hDot,
    Fields.get?_of_mem hDistinct hMem, Option.getD_some]

theorem compile_key (scope : Scope) (caseSensitive : Bool) {ref : ColumnRef}
    (h : ∃ k ∈ s.groupBy, k.signature = (Expression.column ref).signature) :
    ∃ k ∈ (Grouping.ofStatement s).keys, k.expression = s.groupKey (.column ref) ∧
      Site.compile ⟨scope, .ofStatement s, caseSensitive⟩ (.column ref) =
        .ok (.field ("$_id." ++ k.name)) := by
  obtain ⟨k, hk, hExpression⟩ := exists_key h
  refine ⟨k, List.mem_of_find?_eq_some hk, hExpression, Site.compile_of_operand? ?_⟩
  have hName : (Grouping.ofStatement s).keyName? (Expression.column ref).signature =
      some k.name := by
    rw [Grouping.keyName?, hk, Option.map_some]
  exact Grouping.operand?_of_keyName? hs.isEmpty_ofStatement (by rintro _ ⟨⟩) hName

theorem compile_aggregate (scope : Scope) (caseSensitive : Bool) {a : Aggregate}
    (ha : .aggregate a ∈ s.operands.map (·.expression)) (hOver : a.OverColumn) :
    ∃ b ∈ (Grouping.ofStatement s).aggregates, b.aggregate = s.groupAggregate a ∧
      b.aggregate.kind = a.kind ∧
      Site.compile ⟨scope, .ofStatement s, caseSensitive⟩ (.aggregate a) =
        .ok (.field ("$" ++ b.name)) := by
  have hMem : a ∈ (s.operands.map (·.expression)).flatMap Expression.localAggregates := by
    refine List.mem_flatMap.mpr ⟨_, ha, ?_⟩
    cases hOver <;> exact .head _
  have hFound : (((s.operands.map (·.expression)).flatMap Expression.localAggregates).find?
      fun b => b.signature = a.signature).isSome = true := by
    rw [List.find?_isSome]
    exact ⟨a, hMem, decide_eq_true rfl⟩
  obtain ⟨first, hFirst⟩ := Option.isSome_iff_exists.mp hFound
  have hEntry : ((Grouping.ofStatement s).aggregates.find? fun b => b.signature = a.signature).map
      GroupAggregate.aggregate = some first := by
    rw [hs.aggregates_eq]
    exact (Grouping.find?_foldl_addAggregate [] _ a.signature).trans hFirst
  obtain ⟨b, hb, rfl⟩ := Option.map_eq_some_iff.mp hEntry
  have hStandard := (hs.byColumns.aggregates b (List.mem_of_find?_eq_some hb)).1.standard
  have hSignature : b.aggregate.signature = a.signature := by
    have hFoundSame := List.find?_some hb
    exact of_decide_eq_true hFoundSame
  have hKind : b.aggregate.kind = a.kind := by
    have hFolded := Aggregate.folded_of_signature hSignature
    rwa [AggregateKind.folded_of_standard hStandard,
      AggregateKind.folded_of_standard hOver.standard] at hFolded
  -- A key would come before the aggregate, but keys are columns.
  have hNone : (Grouping.ofStatement s).keyName? (Expression.aggregate a).signature = none := by
    rw [Grouping.keyName?, Option.map_eq_none_iff, List.find?_eq_none]
    intro k hk hSame
    obtain ⟨ref, hRef, _⟩ := hs.byColumns.columns k hk
    have hColumn : (Expression.column ref).signature = (Expression.aggregate a).signature :=
      hRef ▸ of_decide_eq_true hSame
    obtain ⟨other, hOther⟩ := Expression.eq_column_of_signature hColumn
    cases hOther
  refine ⟨b, List.mem_of_find?_eq_some hb, ?_, hKind, Site.compile_of_operand? ?_⟩
  · rw [groupAggregate, hFirst, Option.getD_some]
  · refine Grouping.operand?_of_aggregate? hs.isEmpty_ofStatement (by rintro _ ⟨⟩) hNone hb ?_
    intro hExists
    rw [hExists] at hStandard
    cases hStandard

/-- An operand is projected to what the group shows for it. -/
theorem projected_operand {scope : Scope} {caseSensitive : Bool} {field : String × Expression}
    (hField : field ∈ s.outputs) {spec : String × Value}
    (h : Projection.Writes ⟨scope, .ofStatement s, caseSensitive⟩ field spec)
    (hValues : ∀ e ∈ s.groupBy, e.valueIn g.first ≠ .undefined)
    (hSize : g.documents.length < 0x8000000000000000) :
    projected ⟨(Grouping.ofStatement s).spec.summary g, vars⟩ field.1 spec.2 =
      .ok (some (s.cell g field.2)) := by
  obtain ⟨name, e⟩ := field
  obtain ⟨_, o, ho, hSpec⟩ := h
  have hProjected : ∀ {path : String} {v : Value}, o = .field path →
      evaluate ⟨(Grouping.ofStatement s).spec.summary g, vars⟩ (.string path) = .ok v →
      v.isMissing = false →
      projected ⟨(Grouping.ofStatement s).spec.summary g, vars⟩ name spec.2 = .ok (some v) := by
    rintro path v rfl hv hPresent
    have hString : (Operand.field path).projected = .string path := rfl
    have hFlag : flag? (.string path) = none := rfl
    rw [hSpec, hString, projected, hFlag, hv]
    simp [Except.map, hPresent]
  have hOperand : e ∈ s.operands.map (·.expression) := by
    obtain ⟨column, hColumn, hPair⟩ := List.mem_map.mp hField
    cases hPair
    exact List.mem_map.mpr ⟨column.1, (List.of_mem_zip hColumn).1, rfl⟩
  obtain ⟨ref, rfl, hKey⟩ | ⟨a, rfl, hOver⟩ := hs.operand_cases hOperand
  · obtain ⟨k, hk, hEntry, hCompiled⟩ := hs.compile_key scope caseSensitive hKey
    have hPresent : (k.expression.valueIn g.first).isMissing = false :=
      Value.isMissing_eq_false (hValues _ (Grouping.mem_groupBy_of_mem_keys hk))
    have hShown := hProjected (Except.ok.inj (ho.symm.trans hCompiled)) (hs.evaluate_key g vars hk)
      hPresent
    rw [hEntry] at hShown
    exact hShown
  · obtain ⟨b, hb, hEntry, hKind, hCompiled⟩ :=
      hs.compile_aggregate scope caseSensitive hOperand hOver
    have hStandard : b.aggregate.kind.standard = true := hKind ▸ hOver.standard
    have hShown := hProjected (Except.ok.inj (ho.symm.trans hCompiled))
      (hs.evaluate_aggregate g vars hb hSize) (AggregateKind.isMissing_total hStandard _)
    rw [hKind, hEntry] at hShown
    exact hShown

end Statement.GroupsByColumns

/-! The rows of a plan -/

theorem Statement.sameKey_iff {s : Statement} {d d' : Document} :
    s.SameKey d d' ↔ ∀ k ∈ (Grouping.ofStatement s).keys,
      (k.expression.valueIn d).compare (k.expression.valueIn d') = .eq := by
  rw [SameKey, keyTuple, keyTuple, List.forall₂_map_left_iff, List.forall₂_map_right_iff,
    List.forall₂_same]
  constructor
  · intro h k hk
    obtain ⟨entry, hEntry, hFirst⟩ :=
      exists_key ⟨k.expression, Grouping.mem_groupBy_of_mem_keys hk, rfl⟩
    -- The key that is found by the signature of a key is this key.
    have hSame : entry = k := by
      have hSignature : entry.signature = k.signature := by
        have hFound := List.find?_some hEntry
        exact of_decide_eq_true hFound
      have hNone : (([] : List GroupKey).map GroupKey.signature).Nodup := List.nodup_nil
      have hNodup := Grouping.nodup_signatures_keysFrom hNone 0 s.groupBy
      exact List.inj_on_of_nodup_map hNodup (List.mem_of_find?_eq_some hEntry) hk hSignature
    have hValues := h k.expression (Grouping.mem_groupBy_of_mem_keys hk)
    rw [← hFirst, hSame] at hValues
    exact hValues
  · intro h e he
    obtain ⟨k, hk, hFirst⟩ := exists_key ⟨e, he, rfl⟩
    rw [← hFirst]
    exact h k (List.mem_of_find?_eq_some hk)

/-- A row shows what its group does, whatever the order of its fields. -/
def Statement.Shows (s : Statement) (g : DocumentGroup) (out : Document) : Prop :=
  out.Perm (s.row g)

theorem Statement.GroupsByColumns.shows {s : Statement} (hs : s.GroupsByColumns)
    {scope : Scope} {caseSensitive : Bool} {specs : List (String × Value)}
    (hSpecs : List.Forall₂ (Projection.Writes ⟨scope, .ofStatement s, caseSensitive⟩)
      s.outputs specs) {g : DocumentGroup}
    (hValues : ∀ e ∈ s.groupBy, e.valueIn g.first ≠ .undefined)
    (hSize : g.documents.length < 0x8000000000000000) {vars : Variables} {out : Document}
    (h : project vars (Fields.insertAll [("_id", .int32 0)] specs)
      ((Grouping.ofStatement s).spec.summary g) = .ok out) : s.Shows g out := by
  have hNames : specs.map Prod.fst = s.outputs.map Prod.fst :=
    names_eq_of_forall₂ (fun _ _ h => h.1) hSpecs
  have hOutputs : (s.outputs.map Prod.fst).Nodup := by
    rw [s.names_outputs]
    exact hs.outputNames
  have hDistinct : Fields.Distinct specs := by
    rw [Fields.Distinct, hNames]
    exact hOutputs
  have hRow : Fields.Distinct (s.row g) := by
    rw [Fields.Distinct, row, List.map_map]
    exact hOutputs
  have hProjected := (List.forall₂_and_left s.outputs specs).mpr ⟨fun _ hField => hField, hSpecs⟩
  obtain ⟨hOut, hRead⟩ := get?_of_project hDistinct h
  -- No name is there twice, so both are compared by what is read under a name.
  refine hOut.perm hRow fun name => ?_
  have hRead := hRead name
  rw [row, Fields.get?_map]
  obtain ⟨hNone, hNoSpec⟩ | ⟨e, v, hField, hSpec, hMem, hWrites⟩ :=
    exists_lookup_of_forall₂ (fun _ _ h => h.2.1) hProjected name
  · have hNoField : Fields.get? s.outputs name = none := hNone
    have hNothing : Fields.get? specs name = none := hNoSpec
    rw [hNothing] at hRead
    rw [hNoField]
    exact (Except.ok.inj hRead).symm
  · have hSome : Fields.get? s.outputs name = some e := hField
    have hWritten : Fields.get? specs name = some v := hSpec
    rw [hWritten, Option.elim_some, hs.projected_operand g vars hMem hWrites hValues hSize] at hRead
    rw [hSome]
    exact (Except.ok.inj hRead).symm

/-- Grouping documents and projecting the groups yields one row for each group. -/
theorem Statement.GroupsByColumns.forall₂_shows {s : Statement} (hs : s.GroupsByColumns)
    {caseSensitive : Bool} {root : String} {body : Document}
    (hBody : (Grouping.ofStatement s).stageDocument (.rooted root caseSensitive) = .ok body)
    {specs : List (String × Value)}
    (hSpecs : List.Forall₂ (Projection.Writes
      ⟨.rooted root [], .ofStatement s, caseSensitive⟩) s.outputs specs)
    {documents : List Document}
    (hValues : ∀ d ∈ documents, ∀ e ∈ s.groupBy, e.valueIn d ≠ .undefined)
    (hSize : documents.length < 0x8000000000000000) {catalog : Catalog} {out : List Document}
    (h : runStages catalog [] [.document [("$group", .document body)],
      .document [("$project", .document (Fields.insertAll [("_id", .int32 0)] specs))]] documents =
        .ok out) :
    List.Forall₂ s.Shows (DocumentGroup.ofDocuments s.SameKey documents) out := by
  have hGroups : groupStage [] body documents =
      .ok ((DocumentGroup.ofDocuments s.SameKey documents).map
        (Grouping.ofStatement s).spec.summary) := by
    refine hs.byColumns.groupStage hBody (fun d hd k hk => ?_) fun _ _ => sameKey_iff
    exact hValues d hd _ (Grouping.mem_groupBy_of_mem_keys hk)
  rw [runStages_cons, runStage_group, hGroups] at h
  obtain ⟨_, hSame, h⟩ := exists_of_bind_eq_ok h
  cases hSame
  rw [runStages_cons, runStage_project] at h
  obtain ⟨rows, hRows, h⟩ := exists_of_bind_eq_ok h
  cases h
  rw [eachDocument_eq_ok_iff, List.forall₂_map_left_iff] at hRows
  have hPartition : DocumentGroup.Partitions s.SameKey documents
      (DocumentGroup.ofDocuments s.SameKey documents) :=
    DocumentGroup.partitions_ofDocuments documents
  have hGroup : ∀ g ∈ DocumentGroup.ofDocuments s.SameKey documents,
      (∀ e ∈ s.groupBy, e.valueIn g.first ≠ .undefined) ∧
        g.documents.length < 0x8000000000000000 := by
    intro g hg
    have hArrival := hPartition.arrival g hg
    exact ⟨hValues _ (hArrival.subset (.head _)), Nat.lt_of_le_of_lt hArrival.length_le hSize⟩
  have hBoth := (List.forall₂_and_left _ _).mpr ⟨hGroup, hRows⟩
  exact hBoth.imp fun g row hRow => hs.shows hSpecs hRow.1.1 hRow.1.2 hRow.2

/-- A statement that groups by columns yields one row for each group of the documents that satisfy
its condition. A document is in the first group with its key, and the row of the group shows this
key and the aggregates over the documents of the group. -/
theorem Statement.rows_of_groups {s : Statement} (hs : s.GroupsByColumns) {caseSensitive : Bool}
    {plan : Plan} {ctx : Context} (h : s.compile caseSensitive = .ok (plan, ctx))
    {catalog : Catalog}
    (hValues : ∀ d ∈ catalog.collection s.table, ∀ e ∈ s.groupBy, e.valueIn d ≠ .undefined)
    (hSize : (catalog.collection s.table).length < 0x8000000000000000) {out : List Document}
    (hRun : catalog.runPlan plan = .ok out) :
    ∃ kept, s.Filters caseSensitive (catalog.collection s.table) kept ∧
      DocumentGroup.Partitions s.SameKey kept (DocumentGroup.ofDocuments s.SameKey kept) ∧
      List.Forall₂ s.Shows (DocumentGroup.ofDocuments s.SameKey kept) out := by
  obtain ⟨filters, body, specs, hFilters, hBody, hSpecs, rfl⟩ := hs.exists_stages h
  obtain ⟨hNone, rfl⟩ | ⟨e, condition, hSome, hClause, rfl⟩ := hFilters
  · refine ⟨catalog.collection s.table, ?_, DocumentGroup.partitions_ofDocuments _, ?_⟩
    · rw [Filters, hNone]
    · exact hs.forall₂_shows hBody hSpecs hValues hSize hRun
  · have hStages : runStages catalog [] (.document [("$match", .document condition)] :: _)
        (catalog.collection s.table) = .ok out := hRun
    rw [runStages_cons, runStage_filter] at hStages
    obtain ⟨kept, hKept, hStages⟩ := exists_of_bind_eq_ok hStages
    have hSublist := sublist_of_filterStage hKept
    refine ⟨kept, ?_, DocumentGroup.partitions_ofDocuments _, ?_⟩
    · rw [Filters, hSome]
      exact ⟨condition, hClause, hKept⟩
    · refine hs.forall₂_shows hBody hSpecs (fun d hd => hValues d (hSublist.subset hd)) ?_ hStages
      exact Nat.lt_of_le_of_lt hSublist.length_le hSize

/-! Aggregates by one column -/

namespace Statement

def byKey (aggregates : List (String × Aggregate)) : Statement :=
  { Statement.empty with
    table := "Items"
    aliasName := some "N"
    operands := ⟨.column ⟨some "N", "k", .int32⟩, some "k"⟩ ::
      aggregates.map fun a => ⟨.aggregate a.2, some a.1⟩
    groupBy := [.column ⟨some "N", "k", .int32⟩] }

theorem groupsByColumns_byKey {aggregates : List (String × Aggregate)}
    (hNames : (OutputColumn.fieldNames (byKey aggregates).operands).Nodup)
    (h : ∀ a ∈ aggregates, a.2.OverColumn ∧ a.2.Undollared) :
    (byKey aggregates).GroupsByColumns := by
  have hExpression : ∀ e ∈ (byKey aggregates).expressions,
      e = .column ⟨some "N", "k", .int32⟩ ∨ ∃ a ∈ aggregates, e = .aggregate a.2 := by
    intro e he
    obtain ⟨o, ho, rfl⟩ | hNone | hKey | hNone | ⟨key, hKey, _⟩ := mem_expressions.mp he
    · obtain rfl | ho := List.mem_cons.mp ho
      · exact .inl rfl
      · obtain ⟨a, ha, rfl⟩ := List.mem_map.mp ho
        exact .inr ⟨a, ha, rfl⟩
    · cases hNone
    · exact .inl (List.mem_singleton.mp hKey)
    · cases hNone
    · cases hKey
  have hPart : ∀ e ∈ (byKey aggregates).expressions, ∀ p : Expression, p.LocalPart e →
      (∃ ref, p = .column ref ∧ Text.dollar (ColumnName.normalize ref.name) = false) ∨
        ∃ a : Aggregate, p = .aggregate a ∧ a.statement = none := by
    intro e he p hPart
    obtain rfl | ⟨a, ha, rfl⟩ := hExpression e he
    · cases hPart with
      | self => exact .inl ⟨_, rfl, by decide⟩
      | child hc => cases hc
    · obtain ⟨hOver, hDollar⟩ := h a ha
      obtain rfl | ⟨ref, hTarget, rfl⟩ := hOver.part_cases hPart
      · exact .inr ⟨a.2, rfl, hOver.statement⟩
      · exact .inl ⟨ref, rfl, hDollar ref hTarget⟩
  refine ⟨rfl, ?_, rfl, rfl, rfl, rfl, List.cons_ne_nil _ _, ?_, List.nodup_singleton _, ?_, hNames,
    ?_⟩
  · rintro a ⟨e, he, ha⟩
    obtain ⟨ref, hColumn, _⟩ | ⟨b, hb, hStatement⟩ := hPart e he _ ha
    · cases hColumn
    · cases hb
      exact hStatement
  · intro e he
    exact ⟨_, List.mem_singleton.mp he⟩
  · intro o ho
    obtain rfl | ho := List.mem_cons.mp ho
    · exact .inl ⟨_, .head _, rfl⟩
    · obtain ⟨a, ha, rfl⟩ := List.mem_map.mp ho
      exact .inr ⟨a.2, rfl, (h a ha).1⟩
  · intro e he ref hColumn
    obtain ⟨other, hOther, hDollar⟩ | ⟨a, ha, _⟩ := hPart e he _ hColumn
    · cases hOther
      exact hDollar
    · cases ha

def sumOf (name : String) : Aggregate := ⟨.sum, some (.column ⟨some "N", name, .int32⟩), none⟩

theorem undollared_sumOf {name : String} (h : Text.dollar (ColumnName.normalize name) = false) :
    (sumOf name).OverColumn ∧ (sumOf name).Undollared := by
  refine ⟨.column rfl _, ?_⟩
  rintro ref ⟨⟩
  exact h

def item (key first second : Int32) : Document :=
  [("k", .int32 key), ("x", .int32 first), ("X", .int32 second)]

theorem valueIn_item (aggregates : List (String × Aggregate)) (key first second : Int32) :
    ∀ e ∈ (byKey aggregates).groupBy, e.valueIn (item key first second) ≠ .undefined := by
  intro e he
  obtain rfl := List.mem_singleton.mp he
  have hValue : (Expression.column ⟨some "N", "k", .int32⟩).valueIn (item key first second) =
      .int32 key := rfl
  rw [hValue]
  nofun

def countAndSum : Statement := byKey [("n", ⟨.count, none, none⟩), ("total", sumOf "x")]

def twoKeys : List Document := [item 1 10 0, item 2 5 0, item 1 20 0]

theorem rows_of_countAndSum :
    ∃ plan ctx out, countAndSum.compile false = .ok (plan, ctx) ∧
      Catalog.runPlan [("Items", twoKeys)] plan = .ok out ∧
      ∃ kept, countAndSum.Filters false twoKeys kept ∧
        DocumentGroup.Partitions countAndSum.SameKey kept
          (DocumentGroup.ofDocuments countAndSum.SameKey kept) ∧
        List.Forall₂ countAndSum.Shows
          (DocumentGroup.ofDocuments countAndSum.SameKey kept) out := by
  have hs : countAndSum.GroupsByColumns := by
    refine groupsByColumns_byKey (by decide) fun a ha => ?_
    obtain rfl | rfl := List.mem_pair.mp ha
    · exact ⟨.documents, fun _ => nofun⟩
    · exact undollared_sumOf (by decide)
  have hValues : ∀ d ∈ Catalog.collection [("Items", twoKeys)] countAndSum.table,
      ∀ e ∈ countAndSum.groupBy, e.valueIn d ≠ .undefined := by
    intro d hd
    change d ∈ twoKeys at hd
    obtain rfl | rfl | rfl : d = item 1 10 0 ∨ d = item 2 5 0 ∨ d = item 1 20 0 := by
      simpa [twoKeys] using hd
    all_goals exact valueIn_item _ _ _ _
  have hCompiled : ∃ plan ctx out, countAndSum.compile false = .ok (plan, ctx) ∧
      Catalog.runPlan [("Items", twoKeys)] plan = .ok out := ⟨_, _, _, rfl, rfl⟩
  obtain ⟨plan, ctx, out, hCompiled, hRun⟩ := hCompiled
  exact ⟨plan, ctx, out, hCompiled, hRun, rows_of_groups hs hCompiled hValues (by decide) hRun⟩

def lowerAndUpper : Statement := byKey [("lower", sumOf "x"), ("upper", sumOf "X")]

def oneKey : List Document := [item 1 10 200, item 1 20 300]

/-- Both sums are over the first column. -/
theorem rows_of_lowerAndUpper :
    lowerAndUpper.GroupsByColumns ∧
      (∀ d ∈ oneKey, ∀ e ∈ lowerAndUpper.groupBy, e.valueIn d ≠ .undefined) ∧
      ∃ plan ctx, lowerAndUpper.compile false = .ok (plan, ctx) ∧
        Catalog.runPlan [("Items", oneKey)] plan =
          .ok [[("k", .int32 1), ("lower", .int32 30), ("upper", .int32 30)]] ∧
        AggregateKind.sum.total (oneKey.map (sumOf "X").valueIn) = .int32 500 := by
  have hs : lowerAndUpper.GroupsByColumns := by
    refine groupsByColumns_byKey (by decide) fun a ha => ?_
    obtain rfl | rfl := List.mem_pair.mp ha
    · exact undollared_sumOf (by decide)
    · exact undollared_sumOf (by decide)
  refine ⟨hs, fun d hd => ?_, _, _, rfl, rfl, rfl⟩
  obtain rfl | rfl := List.mem_pair.mp hd
  all_goals exact valueIn_item _ _ _ _

end Statement

end RelPipe
