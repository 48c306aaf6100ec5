import RelPipe.Proofs.Document.Order
import RelPipe.Proofs.Grouping.Entries
import RelPipe.Proofs.Pipeline.Groups
import RelPipe.Proofs.Planning.Projecting
import RelPipe.Proofs.Scoping.Levels
import RelPipe.Proofs.Subqueries.Reduction

/-!
The groups of documents by columns. The key of a document is made of the values of the key columns,
and two keys are equal if they are equal value by value. Each aggregate takes one value of every
document of a group.
-/

namespace RelPipe

set_option autoImplicit false

open Pipeline

/-- The value of a column in a document, undefined if there is none. -/
def Expression.valueIn (e : Expression) (d : Document) : Value :=
  match e with
  | .column ref => (d.path? (ColumnName.normalize ref.name)).getD .undefined
  | _ => .undefined

def Aggregate.valueIn (a : Aggregate) (d : Document) : Value :=
  (a.target.map (·.valueIn d)).getD .undefined

def AggregateKind.standard : AggregateKind → Bool
  | .count | .sum | .avg | .min | .max => true
  | .exists | .custom _ => false

/-- Aggregates over the documents of a group: the number of documents, or one of the standard kinds
over a column. -/
inductive Aggregate.OverColumn : Aggregate → Prop where
  | documents : OverColumn ⟨.count, none, none⟩
  | column {kind : AggregateKind} (hKind : kind.standard = true) (ref : ColumnRef) :
    OverColumn ⟨kind, some (.column ref), none⟩

/-- No name that an aggregate reads starts like a reference. -/
def Aggregate.Undollared (a : Aggregate) : Prop :=
  ∀ ref, a.target = some (.column ref) → Text.dollar (ColumnName.normalize ref.name) = false

/-! Totals -/

namespace AggregateKind

variable {kind : AggregateKind}

def operator : AggregateKind → String
  | .avg => "$avg"
  | .min => "$min"
  | .max => "$max"
  | _ => "$sum"

theorem accumulate_operator (h : kind.standard = true) (inputs : List Value) :
    accumulate kind.operator inputs = .ok (kind.accumulated inputs) := by
  cases kind <;> first | rfl | cases h

theorem accumulator_operator (h : kind.standard = true) (input : Value) :
    kind.accumulator (some input) = .ok (.single kind.operator (kind.operand input)) := by
  cases kind <;> first | rfl | cases h

theorem folded_of_standard (h : kind.standard = true) : kind.folded = kind := by
  cases kind <;> first | rfl | cases h

theorem isMissing_sum (inputs : List Value) : (Pipeline.sum inputs).isMissing = false := by
  unfold Pipeline.sum
  dsimp only
  split
  · unfold ArithmeticOp.narrowed
    split <;> rfl
  · rfl

theorem isMissing_average (inputs : List Value) : (Pipeline.average inputs).isMissing = false := by
  unfold Pipeline.average
  split <;> rfl

theorem mem_of_foldl_eq_some {step : Option Value → Value → Option Value}
    (hStep : ∀ best v, step best v = some v ∨ step best v = best) {values : List Value}
    {best : Option Value} {w : Value} (h : values.foldl step best = some w) :
    w ∈ values ∨ best = some w := by
  induction values generalizing best with
  | nil => exact .inr h
  | cons v values ih =>
    obtain hMem | hBest := ih h
    · exact .inl (.tail _ hMem)
    · obtain hNew | hSame := hStep best v
      · obtain rfl := Option.some.inj (hNew.symm.trans hBest)
        exact .inl (.head _)
      · exact .inr (hSame.symm.trans hBest)

theorem isMissing_extreme (beyond : Ordering) (inputs : List Value) :
    (Pipeline.extreme beyond inputs).isMissing = false := by
  have hBest : ∀ best : Option Value, (∀ v, best = some v → v.isMissing = false) →
      (best.getD .null).isMissing = false := by
    intro best h
    cases best with
    | none => rfl
    | some v => exact h v rfl
  refine hBest _ fun v hv => ?_
  have hMem : v ∈ inputs.filter (fun v => !v.isAbsent) ∨ none = some v := by
    refine mem_of_foldl_eq_some (fun best w => ?_) hv
    cases best with
    | none => exact .inl rfl
    | some b =>
      dsimp only
      split
      · exact .inl rfl
      · exact .inr rfl
  obtain hMem | hNone := hMem
  · have hPresent := (List.mem_filter.mp hMem).2
    cases v <;> first | rfl | cases hPresent
  · cases hNone

theorem isMissing_total (h : kind.standard = true) (inputs : List Value) :
    (kind.total inputs).isMissing = false := by
  cases kind with
  | count =>
    rw [total]
    unfold ArithmeticOp.narrowed
    split <;> rfl
  | sum => exact isMissing_sum inputs
  | avg => exact isMissing_average inputs
  | min | max => exact isMissing_extreme _ inputs
  | «exists» | custom => cases h

theorem accumulated_operand {α : Type} (h : kind.standard = true) (f : α → Value) {items : List α}
    (hSize : items.length < 0x8000000000000000) :
    kind.accumulated (items.map fun i => kind.operand (f i)) = kind.total (items.map f) := by
  cases kind with
  | count =>
    -- Documents are counted by adding up a one for each.
    have hOnes : (items.map fun i => AggregateKind.count.operand (f i)) =
        List.replicate items.length (.int32 1) := List.map_const' ..
    rw [accumulated, hOnes, sum_ones hSize, total, List.length_map]
  | «exists» | custom => cases h
  | _ => rfl

end AggregateKind

/-! The accumulators of a grouping -/

def Aggregate.input (a : Aggregate) : Value :=
  match a.target with
  | some (.column ref) => a.kind.operand (.string ("$" ++ ColumnName.normalize ref.name))
  | _ => .int32 1

def GroupAggregate.accumulator (a : GroupAggregate) : Accumulator :=
  ⟨a.name, a.aggregate.kind.operator, a.aggregate.input⟩

theorem Aggregate.OverColumn.standard {a : Aggregate} (h : a.OverColumn) :
    a.kind.standard = true := by
  cases h with
  | documents => rfl
  | column hKind => exact hKind

theorem Aggregate.OverColumn.statement {a : Aggregate} (h : a.OverColumn) :
    a.statement = none := by
  cases h <;> rfl

theorem Aggregate.OverColumn.part_cases {a : Aggregate} (h : a.OverColumn) {p : Expression}
    (hPart : p.LocalPart (.aggregate a)) :
    p = .aggregate a ∨ ∃ ref, a.target = some (.column ref) ∧ p = .column ref := by
  cases hPart with
  | self => exact .inl rfl
  | child hc hPart =>
    cases h with
    | documents => cases hc
    | column hKind ref =>
      obtain rfl := List.mem_singleton.mp hc
      cases hPart with
      | self => exact .inr ⟨ref, rfl, rfl⟩
      | child hc => cases hc

theorem evaluate_column {ref : ColumnRef}
    (h : Text.dollar (ColumnName.normalize ref.name) = false) (d : Document) (vars : Variables) :
    evaluate ⟨d, vars⟩ (.string ("$" ++ ColumnName.normalize ref.name)) =
      .ok ((Expression.column ref).valueIn d) :=
  evaluate_field h

theorem Aggregate.OverColumn.evaluate_input {a : Aggregate} (h : a.OverColumn)
    (hNames : a.Undollared) (d : Document) (vars : Variables) :
    evaluate ⟨d, vars⟩ a.input = .ok (a.kind.operand (a.valueIn d)) := by
  cases h with
  | documents => rfl
  | @column kind hKind ref =>
    have hDollar : Text.dollar (ColumnName.normalize ref.name) = false := hNames ref rfl
    have hRead : evaluate ⟨d, vars⟩ (.string ("$" ++ ColumnName.normalize ref.name)) =
        .ok ((Expression.column ref).valueIn d) := evaluate_column hDollar d vars
    have hValue : Aggregate.valueIn ⟨kind, some (.column ref), none⟩ d =
        (Expression.column ref).valueIn d := by
      rw [Aggregate.valueIn, Option.map_some, Option.getD_some]
    rw [hValue, Aggregate.input]
    cases kind with
    | count =>
      change evaluate ⟨d, vars⟩ (.int32 1) = .ok (.int32 1)
      rfl
    | «exists» | custom => cases hKind
    | _ => exact hRead

section

variable (root : String) (caseSensitive : Bool)

def Site.rooted : Site := ⟨.rooted root [], .empty, caseSensitive⟩

theorem Site.value_rooted (ref : ColumnRef) :
    (rooted root caseSensitive).value (.column ref) =
      .ok (.string ("$" ++ ColumnName.normalize ref.name)) := by
  have hPath : (rooted root caseSensitive).scope.columnPath ref =
      "$" ++ ColumnName.normalize ref.name := AliasTable.fieldPath_rooted root _ _
  rw [← hPath]
  rfl

namespace Grouping

variable {root caseSensitive}

theorem WritesAggregate.value_eq {a : GroupAggregate} {field : String × Value}
    (h : WritesAggregate (.rooted root caseSensitive) a field) (hOver : a.aggregate.OverColumn) :
    field.2 = .single a.aggregate.kind.operator a.aggregate.input := by
  obtain ⟨_, input, hInput, hValue⟩ := h
  obtain ⟨name, aggregate⟩ := a
  cases hOver with
  | documents =>
    cases hInput
    exact (Except.ok.inj hValue).symm
  | column hKind ref =>
    rw [Grouping.input, Site.value_rooted] at hInput
    cases hInput
    rw [AggregateKind.accumulator_operator hKind] at hValue
    exact (Except.ok.inj hValue).symm

theorem accumulators_of_forall₂ {aggregates : List GroupAggregate} {fields : List (String × Value)}
    (h : List.Forall₂ (WritesAggregate (.rooted root caseSensitive)) aggregates fields)
    (hOver : ∀ a ∈ aggregates, a.aggregate.OverColumn ∧ a.name ≠ "_id") :
    accumulators fields = .ok (aggregates.map GroupAggregate.accumulator) := by
  induction h with
  | nil => rfl
  | @cons a field aggregates fields hWrites _ ih =>
    obtain ⟨⟨hFirst, hName⟩, hRest⟩ := List.forall_mem_cons.mp hOver
    obtain ⟨name, v⟩ := field
    obtain rfl : name = a.name := hWrites.1
    obtain rfl : v = .single a.aggregate.kind.operator a.aggregate.input := hWrites.value_eq hFirst
    rw [Value.single, accumulators, if_neg hName, ih hRest]
    rfl

theorem WritesKey.evaluate {k : GroupKey} {field : String × Value}
    (h : WritesKey (.rooted root caseSensitive) k field) {ref : ColumnRef}
    (hRef : k.expression = .column ref)
    (hDollar : Text.dollar (ColumnName.normalize ref.name) = false) (d : Document)
    (vars : Variables) : Pipeline.evaluate ⟨d, vars⟩ field.2 = .ok (k.expression.valueIn d) := by
  obtain ⟨_, hValue⟩ := h
  rw [hRef, keyValue, Site.value_rooted] at hValue
  · rw [← Except.ok.inj hValue, hRef]
    exact evaluate_column hDollar d vars
  · simp

theorem evaluateFields_of_forall₂ {keys : List GroupKey} {fields : List (String × Value)}
    (h : List.Forall₂ (WritesKey (.rooted root caseSensitive)) keys fields) {d : Document}
    {vars : Variables}
    (hColumns : ∀ k ∈ keys, ∃ ref, k.expression = .column ref ∧
      Text.dollar (ColumnName.normalize ref.name) = false)
    (hValues : ∀ k ∈ keys, k.expression.valueIn d ≠ .undefined) :
    evaluateFields ⟨d, vars⟩ fields = .ok (keys.map fun k => (k.name, k.expression.valueIn d)) := by
  induction h with
  | nil => rfl
  | @cons k field keys fields hWrites _ ih =>
    obtain ⟨⟨ref, hRef, hDollar⟩, hRest⟩ := List.forall_mem_cons.mp hColumns
    obtain ⟨hValue, hOthers⟩ := List.forall_mem_cons.mp hValues
    obtain ⟨name, v⟩ := field
    obtain rfl : name = k.name := hWrites.1
    rw [evaluateFields, hWrites.evaluate hRef hDollar d vars, ih hRest hOthers, List.map_cons]
    change Except.ok (if _ then _ else _) = _
    rw [Value.isMissing_eq_false hValue, if_neg Bool.false_ne_true]

def spec (g : Grouping) : GroupSpec GroupAggregate where
  items := g.aggregates
  accumulator := GroupAggregate.accumulator
  keyOf d := .document (g.keys.map fun k => (k.name, k.expression.valueIn d))
  inputOf a d := a.aggregate.kind.operand (a.aggregate.valueIn d)
  total a := a.aggregate.kind.accumulated

structure ByColumns (g : Grouping) : Prop where
  keys : g.keys ≠ []
  names : (g.keys.map GroupKey.name).Nodup
  columns : ∀ k ∈ g.keys, ∃ ref, k.expression = .column ref ∧
    Text.dollar (ColumnName.normalize ref.name) = false
  undollared : ∀ k ∈ g.keys, Text.dollar k.name = false
  aggregates : ∀ a ∈ g.aggregates, a.aggregate.OverColumn ∧ a.aggregate.Undollared ∧ a.name ≠ "_id"

theorem compare_keyOf (g : Grouping) (d d' : Document) :
    (g.spec.keyOf d).compare (g.spec.keyOf d') = .eq ↔
      ∀ k ∈ g.keys, (k.expression.valueIn d).compare (k.expression.valueIn d') = .eq := by
  rw [spec, Value.compare_documents, Value.compareFields_eq_iff]

/-- The stage of a grouping by columns forms groups of documents with equal keys. -/
theorem ByColumns.groupStage {g : Grouping} (hg : g.ByColumns) {body : Document}
    (h : g.stageDocument (.rooted root caseSensitive) = .ok body) {vars : Variables}
    {documents : List Document}
    (hValues : ∀ d ∈ documents, ∀ k ∈ g.keys, k.expression.valueIn d ≠ .undefined)
    {same : Document → Document → Prop} [DecidableRel same]
    (hSame : ∀ d d', same d d' ↔
      ∀ k ∈ g.keys, (k.expression.valueIn d).compare (k.expression.valueIn d') = .eq) :
    groupStage vars body documents =
      .ok ((DocumentGroup.ofDocuments same documents).map g.spec.summary) := by
  obtain ⟨fields, accumulated, hFields, hAccumulated, rfl⟩ := exists_of_stageDocument h
  have hNames : fields.map Prod.fst = g.keys.map GroupKey.name :=
    names_eq_of_forall₂ (fun _ _ h => h.1) hFields
  have hNonempty : fields.isEmpty = false := by
    rw [← Bool.not_eq_true, List.isEmpty_iff]
    rintro rfl
    exact hg.keys (List.map_eq_nil_iff.mp hNames.symm)
  -- Keys of one name would overwrite each other in the identity.
  have hDistinct : Fields.ofPairs fields = fields := by
    refine Fields.ofPairs_of_distinct ?_
    rw [Fields.Distinct, hNames]
    exact hg.names
  have hDollar : ∀ field ∈ fields, Text.dollar field.1 = false := by
    intro field hField
    obtain ⟨k, hk, hName, _⟩ := exists_of_mem_of_forall₂ hFields hField
    exact hName ▸ hg.undollared k hk
  have hDescribes : g.spec.Describes vars (.document fields) documents := by
    refine ⟨fun d hd => ⟨?_, by simp [spec]⟩, fun d _ a ha => ?_, fun a ha => ?_⟩
    · rw [evaluate_document hDollar, evaluateFields_of_forall₂ hFields hg.columns (hValues d hd)]
      rfl
    · exact (hg.aggregates a ha).1.evaluate_input (hg.aggregates a ha).2.1 d vars
    · exact AggregateKind.accumulate_operator (hg.aggregates a ha).1.standard
  rw [hNonempty, if_neg Bool.false_ne_true, hDistinct]
  refine hDescribes.groupStage (fun d d' => (hSame d d').trans (g.compare_keyOf d d').symm) ?_
  exact accumulators_of_forall₂ hAccumulated fun a ha =>
    ⟨(hg.aggregates a ha).1, (hg.aggregates a ha).2.2⟩

end Grouping

end

end RelPipe
