import RelPipe.Proofs.Filter.Native
import RelPipe.Proofs.Pipeline.Integers
import RelPipe.Proofs.Pipeline.Running
import RelPipe.Proofs.Scoping.Planning

/-!
Reducing the documents of a subquery to one value. All documents fall into one group, so that there
is a document with the value of the aggregate unless there were no documents at all.
-/

namespace RelPipe

set_option autoImplicit false

open Pipeline

/-- What is accumulated for each document. Counting and existence add up ones. -/
def AggregateKind.operand (kind : AggregateKind) (input : Value) : Value :=
  match kind with
  | .count | .exists => .int32 1
  | _ => input

def AggregateKind.accumulated (kind : AggregateKind) (inputs : List Value) : Value :=
  match kind with
  | .count | .exists | .sum => Pipeline.sum inputs
  | .avg => Pipeline.average inputs
  | .min => Pipeline.extreme .lt inputs
  | .max => Pipeline.extreme .gt inputs
  | .custom _ => .null

/-- The value of an aggregate, given one input for each document. -/
def AggregateKind.total (kind : AggregateKind) (inputs : List Value) : Value :=
  match kind with
  | .count => ArithmeticOp.narrowed true inputs.length
  | .exists => .boolean !inputs.isEmpty
  | kind => kind.accumulated inputs

def AggregateKind.counts : AggregateKind → Bool
  | .count | .exists => true
  | _ => false

def AggregateKind.projection : AggregateKind → Value
  | .exists => .apply "$gt" [.string "$agg", .int32 0]
  | _ => .string "$agg"

theorem AggregateKind.accumulator_eq {kind : AggregateKind} {input accumulator : Value}
    (h : kind.accumulator (some input) = .ok accumulator) :
    ∃ operator, accumulator = .single operator (kind.operand input) ∧
      ∀ inputs, accumulate operator inputs = .ok (kind.accumulated inputs) := by
  cases kind with
  | custom name => cases h
  | count => exact ⟨"$sum", (Except.ok.inj h).symm, fun _ => rfl⟩
  | sum => exact ⟨"$sum", (Except.ok.inj h).symm, fun _ => rfl⟩
  | avg => exact ⟨"$avg", (Except.ok.inj h).symm, fun _ => rfl⟩
  | min => exact ⟨"$min", (Except.ok.inj h).symm, fun _ => rfl⟩
  | max => exact ⟨"$max", (Except.ok.inj h).symm, fun _ => rfl⟩
  | «exists» => exact ⟨"$sum", (Except.ok.inj h).symm, fun _ => rfl⟩

namespace Pipeline

section

variable {vars : Variables} {a : Accumulator}

theorem groupAll_of_group (slot : List Value) {documents : List Document} {groups : List Group}
    (h : groupAll vars .null [a] [⟨.null, [slot]⟩] documents = .ok groups) :
    ∃ inputs, List.Forall₂ (fun d v => evaluate ⟨d, vars⟩ a.input = .ok v) documents inputs ∧
      groups = [⟨.null, [slot ++ inputs]⟩] := by
  induction documents generalizing slot with
  | nil =>
    cases h
    exact ⟨[], .nil, by rw [List.append_nil]⟩
  | cons d documents ih =>
    rw [groupAll] at h
    obtain ⟨k, hk, h⟩ := exists_of_bind_eq_ok h
    cases hk
    obtain ⟨_, hInputs, h⟩ := exists_of_bind_eq_ok h
    obtain ⟨v, hv, hInputs⟩ := exists_of_bind_eq_ok hInputs
    cases hInputs
    obtain ⟨inputs, hEach, rfl⟩ := ih _ h
    exact ⟨v :: inputs, .cons hv hEach, by simp⟩

theorem groupAll_null {documents : List Document} {groups : List Group}
    (h : groupAll vars .null [a] [] documents = .ok groups) :
    ∃ inputs, List.Forall₂ (fun d v => evaluate ⟨d, vars⟩ a.input = .ok v) documents inputs ∧
      groups = if inputs = [] then [] else [⟨.null, [inputs]⟩] := by
  cases documents with
  | nil =>
    cases h
    exact ⟨[], .nil, rfl⟩
  | cons d documents =>
    rw [groupAll] at h
    obtain ⟨k, hk, h⟩ := exists_of_bind_eq_ok h
    cases hk
    obtain ⟨_, hInputs, h⟩ := exists_of_bind_eq_ok h
    obtain ⟨v, hv, hInputs⟩ := exists_of_bind_eq_ok hInputs
    cases hInputs
    obtain ⟨inputs, hEach, rfl⟩ := groupAll_of_group [v] h
    exact ⟨v :: inputs, .cons hv hEach, rfl⟩

theorem groupStage_null {field operator : String} (hField : field ≠ "_id") {input : Value}
    {total : List Value → Value} (hTotal : ∀ inputs, accumulate operator inputs = .ok (total inputs))
    {documents out : List Document}
    (h : groupStage vars [("_id", .null), (field, .single operator input)] documents = .ok out) :
    ∃ inputs, List.Forall₂ (fun d v => evaluate ⟨d, vars⟩ input = .ok v) documents inputs ∧
      out = if inputs = [] then [] else [[("_id", .null), (field, total inputs)]] := by
  have hAccumulators : accumulators [("_id", .null), (field, .single operator input)] =
      .ok [⟨field, operator, input⟩] := by
    simp only [accumulators, Value.single, if_neg hField]
    rfl
  have hKey : Fields.get? [("_id", Value.null), (field, .single operator input)] "_id" =
      some .null := rfl
  rw [groupStage, hKey] at h
  obtain ⟨_, hSame, h⟩ := exists_of_bind_eq_ok h
  cases hAccumulators.symm.trans hSame
  obtain ⟨groups, hGroups, h⟩ := exists_of_bind_eq_ok h
  obtain ⟨inputs, hEach, rfl⟩ := groupAll_null hGroups
  refine ⟨inputs, hEach, ?_⟩
  split at h
  · cases h
    rw [if_pos ‹_›]
  · rw [if_neg ‹_›]
    simp only [groupDocuments, List.zip_cons_cons, List.zip_nil_right, accumulateAll, hTotal] at h
    exact (Except.ok.inj h).symm

end

/-! Counting -/

theorem foldl_add_ones (n : Nat) (start : Int64) :
    (List.replicate n (1 : Int64)).foldl (· + ·) start = start + Int64.ofNat n := by
  induction n generalizing start with
  | zero => simp
  | succ n ih =>
    rw [List.replicate_succ, List.foldl_cons, ih, Nat.add_comm n 1, Int64.ofNat_add,
      Int64.add_assoc]
    rfl

theorem sum_ones {n : Nat} (h : n < 0x8000000000000000) :
    sum (List.replicate n (.int32 1)) = ArithmeticOp.narrowed true n := by
  have hNumbers : (List.replicate n (Value.int32 1)).filterMap Value.toInt64? =
      List.replicate n 1 := List.filterMap_replicate_of_some rfl
  have hTotal : ((List.replicate n (1 : Int64)).foldl (· + ·) 0).toInt = (n : Int) := by
    rw [foldl_add_ones, Int64.zero_add, Int64.toInt_ofNat_of_lt h]
  have hFilter : (List.replicate n (Value.int32 1)).filter Value.isNumeric =
      List.replicate n (.int32 1) := List.filter_replicate_of_pos rfl
  have hIntegral : (List.replicate n (Value.int32 1)).all Value.isIntegral = true := by
    simp [Value.isIntegral]
  have hNarrow : (List.replicate n (Value.int32 1)).all Value.isInt32 = true := by
    simp [Value.isInt32]
  simp only [sum, hFilter, hIntegral, hNarrow, hNumbers, hTotal, ↓reduceIte]

theorem compare_narrowed_zero {n : Nat} (h : n < 0x8000000000000000) :
    (ArithmeticOp.narrowed true n).compare (.int32 0) = Ord.compare (n : Int) 0 := by
  have hZero : (Value.int32 0).integer? = some 0 := rfl
  have hInteger : (ArithmeticOp.narrowed true n).integer? = some (n : Int) :=
    ArithmeticOp.integer?_narrowed true ⟨by omega, by omega⟩
  have hNumbers : (ArithmeticOp.narrowed true n).compare (.int32 0) =
      (ArithmeticOp.narrowed true n).compareNumbers (.int32 0) := by
    unfold ArithmeticOp.narrowed
    split <;> rfl
  rw [hNumbers, Value.compareNumbers, hInteger, hZero]

theorem project_single {vars : Variables} {d x : Document} {expression v : Value}
    (hFlag : flag? expression = none) (hv : evaluate ⟨d, vars⟩ expression = .ok v)
    (h : project vars [("value", expression)] d = .ok x) :
    (x.path? "value").getD .undefined = v := by
  have hFields : projectFields ⟨d, vars⟩ [("value", expression)] =
      .ok (if v.isMissing then [] else [("value", v)]) := by
    rw [projectFields, hFlag, hv]
    cases hMissing : v.isMissing <;> simp [projectFields, bind, Except.bind, hMissing]
  have hIdentity : Fields.contains [("value", expression)] "_id" = false := rfl
  rw [project, hFields] at h
  obtain ⟨_, hSame, h⟩ := exists_of_bind_eq_ok h
  cases hSame
  rw [hIdentity] at h
  have hRead : ∀ fields : Document, fields = [] ∨ (∃ id, fields = [("_id", id)]) →
      ((fields ++ (if v.isMissing then [] else [("value", v)]) : Document).path? "value").getD
        .undefined = v := by
    intro fields hCases
    rw [Document.path?_of_plain _ (by decide)]
    cases hMissing : v.isMissing with
    | true =>
      have hUndefined : v = .undefined := by
        cases v <;> first | rfl | cases hMissing
      obtain rfl | ⟨id, rfl⟩ := hCases <;> simp [hUndefined, Fields.get?_cons]
    | false => obtain rfl | ⟨id, rfl⟩ := hCases <;> simp [Fields.get?_cons]
  simp only [Bool.false_eq_true, if_false] at h
  split at h
  · rename_i id _
    cases h
    exact hRead [("_id", id)] (.inr ⟨id, rfl⟩)
  · cases h
    exact hRead [] (.inl rfl)

theorem eq_replicate_of_forall₂ {documents : List Document} {inputs : List Value} {v : Value}
    (h : List.Forall₂ (fun _ w => w = v) documents inputs) :
    inputs = List.replicate documents.length v := by
  induction h with
  | nil => rfl
  | cons hHead _ ih => rw [hHead, ih, List.length_cons, List.replicate_succ]

theorem evaluate_projection {kind : AggregateKind} {input : Value} {vars documentVars : Variables}
    {documents : List Document} {inputs : List Value}
    (hInputs : List.Forall₂ (fun d v => evaluate ⟨d, documentVars⟩ (kind.operand input) = .ok v)
      documents inputs) (hBound : kind.counts = true → documents.length < 0x8000000000000000) :
    evaluate ⟨[("_id", .null), ("agg", kind.accumulated inputs)], vars⟩ kind.projection =
      .ok (kind.total inputs) := by
  have hRead : ∀ v : Value, evaluate ⟨[("_id", .null), ("agg", v)], vars⟩ (.string "$agg") =
      .ok v := fun _ => rfl
  have hOnes : kind.counts = true →
      sum inputs = ArithmeticOp.narrowed true inputs.length ∧ inputs.length < 0x8000000000000000 := by
    intro hCounts
    have hOperand : kind.operand input = .int32 1 := by
      cases kind <;> first | rfl | cases hCounts
    have hOne : inputs = List.replicate documents.length (.int32 1) := by
      refine eq_replicate_of_forall₂ (hInputs.imp fun d v hv => ?_)
      rw [hOperand] at hv
      exact (Except.ok.inj hv).symm
    rw [hOne, List.length_replicate]
    exact ⟨sum_ones (hBound hCounts), hBound hCounts⟩
  cases kind with
  | count =>
    rw [AggregateKind.projection, hRead, AggregateKind.accumulated, (hOnes rfl).1]
    · rfl
    · nofun
  | «exists» =>
    obtain ⟨hSum, hLength⟩ := hOnes rfl
    have hTest : evaluate ⟨[("_id", .null), ("agg", sum inputs)], vars⟩
        (.apply "$gt" [.string "$agg", .int32 0]) =
        .ok (.boolean (Comparison.gt.holds ((sum inputs).compare (.int32 0)))) := by
      rw [evaluate_onValues rfl rfl, evaluateEach_pair (hRead _) rfl]
      rfl
    have hPositive : Comparison.gt.holds ((sum inputs).compare (.int32 0)) = !inputs.isEmpty := by
      rw [hSum, compare_narrowed_zero hLength]
      cases inputs with
      | nil => rfl
      | cons v inputs =>
        rw [Int.compare_eq_gt.mpr (by rw [List.length_cons]; omega)]
        rfl
    exact hTest.trans (by rw [hPositive]; rfl)
  | _ => exact hRead _

end Pipeline

/-- What a subquery aggregates: its target, or else the first operand of its statement. -/
def Aggregate.aggregated? (a : Aggregate) : Option Expression :=
  a.target.or (a.statement.bind fun s => s.operands.head?.map (·.expression))

namespace Planning

theorem exists_of_reduce {p q : Planning} {site : Site} {a : Aggregate}
    (h : p.reduce site a = .ok q) :
    ∃ input accumulator, a.aggregated?.elim (.ok (.int32 1)) site.value = .ok input ∧
      a.kind.accumulator (some input) = .ok accumulator ∧
      q = (p.add .group [("_id", .null), ("agg", accumulator)]).add .project
        [("value", a.kind.projection)] := by
  unfold reduce at h
  dsimp only at h
  split at h
  all_goals
    rename_i hTarget
    obtain ⟨input, hInput, h⟩ := exists_of_bind_eq_ok h
    obtain ⟨accumulator, hAccumulator, h⟩ := exists_of_bind_eq_ok h
    refine ⟨input, accumulator, ?_, hAccumulator, (Except.ok.inj h).symm⟩
    rw [Aggregate.aggregated?, hTarget]
    exact hInput

/-- The pipeline of a subquery yields one document with the value of the aggregate, or none if
there was nothing to aggregate. -/
theorem runStages_reduce {p q : Planning} {site : Site} {a : Aggregate}
    (h : p.reduce site a = .ok q) :
    ∃ input, a.aggregated?.elim (.ok (.int32 1)) site.value = .ok input ∧
      ∀ (catalog : Catalog) (vars : Variables) (documents out : List Document),
        runStages catalog vars (q.plan.pipeline.map .document) documents = .ok out →
        ∃ yielded inputs x,
          runStages catalog vars (p.plan.pipeline.map .document) documents = .ok yielded ∧
          List.Forall₂ (fun d v => evaluate ⟨d, vars⟩ (a.kind.operand input) = .ok v)
            yielded inputs ∧
          out = (if inputs = [] then [] else [x]) ∧
          (inputs ≠ [] → (a.kind.counts = true → yielded.length < 0x8000000000000000) →
            (Document.path? x "value").getD .undefined = a.kind.total inputs) := by
  obtain ⟨input, accumulator, hInput, hAccumulator, rfl⟩ := exists_of_reduce h
  obtain ⟨operator, rfl, hTotal⟩ := AggregateKind.accumulator_eq hAccumulator
  refine ⟨input, hInput, ?_⟩
  intro catalog vars documents out hRun
  have hStages : ((p.add .group [("_id", .null), ("agg", .single operator (a.kind.operand input))]).add
      .project [("value", a.kind.projection)]).plan.pipeline.map Value.document =
      p.plan.pipeline.map .document ++
        [.document [("$group", .document
            [("_id", .null), ("agg", .single operator (a.kind.operand input))])],
          .document [("$project", .document [("value", a.kind.projection)])]] := by
    dsimp only [add, Plan.pipeline]
    rw [Plan.stages_add _ _ (List.cons_ne_nil _ _), Plan.stages_add _ _ (List.cons_ne_nil _ _)]
    simp [Stage.toDocument, StageKind.operator]
  rw [hStages, runStages_append] at hRun
  obtain ⟨yielded, hYielded, hRun⟩ := exists_of_bind_eq_ok hRun
  rw [runStages_cons, runStage_group] at hRun
  obtain ⟨grouped, hGrouped, hRun⟩ := exists_of_bind_eq_ok hRun
  obtain ⟨inputs, hInputs, rfl⟩ := groupStage_null (by decide) hTotal hGrouped
  rw [runStages_cons, runStage_project] at hRun
  obtain ⟨projected, hProjected, hRun⟩ := exists_of_bind_eq_ok hRun
  cases hRun
  have hFlag : flag? a.kind.projection = none := by
    cases a.kind <;> rfl
  by_cases hNone : inputs = []
  · rw [if_pos hNone] at hProjected
    cases hProjected
    exact ⟨yielded, inputs, [], hYielded, hInputs, (if_pos hNone).symm, fun h => absurd hNone h⟩
  · rw [if_neg hNone, eachDocument_eq_ok_iff] at hProjected
    obtain _ | ⟨hOne, _ | _⟩ := hProjected
    refine ⟨yielded, inputs, _, hYielded, hInputs, (if_neg hNone).symm, fun _ hBound => ?_⟩
    exact project_single hFlag (evaluate_projection hInputs hBound) hOne

end Planning

end RelPipe
