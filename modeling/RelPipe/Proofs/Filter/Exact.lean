import RelPipe.Proofs.Filter.Native

/-!
Filters of comparisons, ranges and memberships have the outcome of their computed forms on every
document whose fields are of the kinds that they are compared with.
-/

namespace RelPipe

set_option autoImplicit false

open Pipeline

/-- Where a field of the document stands against a constant, its value is absent or of the kind of
the constant. -/
def Operand.OfOneKind (d : Document) (field constant : Operand) : Prop :=
  ∀ name v x, field.fieldName? = some name → constant.constant? = some v →
    d.path? name = some x → x.isAbsent = true ∨ x.rank = v.rank

theorem Operand.OfOneKind.fieldValue {env : Environment} {field constant : Operand}
    (h : field.OfOneKind env.document constant) {name : String} {v : Value}
    (hField : field.fieldName? = some name) (hConstant : constant.constant? = some v) :
    (env.fieldValue name).isAbsent = true ∨ (env.fieldValue name).rank = v.rank := by
  unfold Environment.fieldValue
  cases hPath : env.document.path? name with
  | none => exact .inl rfl
  | some x => exact h name v x hField hConstant hPath

/-- An operand that is a constant is one other than null. -/
def Operand.NotNull (o : Operand) : Prop := ∀ v, o.constant? = some v → v.isLiteral = true

namespace Filter

variable {env : Environment}

/-- A filter is exact for an expression if it has the same outcome, both as a filter and written as
an expression. -/
structure Exact (env : Environment) (f : Filter) (v : Value) : Prop where
  document : satisfies env f.toDocument = truth env v
  expression : truth env f.toExpression = truth env v

theorem Exact.computed (v : Value) : Exact env (computed v) v where
  document := satisfies_computed v
  expression := rfl

theorem Exact.comparison {l r : Operand} {op : BinaryOp} (hop : op.isComparison = true)
    (hr : r.NotNull) (hKinds : op.isInequality = true → l.OfOneKind env.document r)
    {name : String} {v : Value} (hField : l.fieldName? = some name)
    (hConstant : r.constant? = some v) :
    Exact env (comparison name op v) (RelPipe.comparison op l r) := by
  obtain ⟨rfl, hName⟩ := Operand.eq_field_of_fieldName? hField
  obtain rfl := Operand.eq_constant_of_constant? hConstant
  have hv := hr v hConstant
  have hNative := op.native_eq_guarded hv fun h => (hKinds h).fieldValue hField hConstant
  rw [← fieldExpression_eq_comparison]
  refine ⟨?_, rfl⟩
  rw [satisfies_comparison hName hop hv, truth_fieldExpression hName hop hv, hNative]

theorem truth_mirrored {l r : Operand} {op : BinaryOp} (hop : op.isComparison = true)
    (hl : l.NotNull) {name : String} {v : Value} (hField : r.fieldName? = some name)
    (hConstant : l.constant? = some v) :
    truth env (RelPipe.comparison op.mirrored r l) = truth env (RelPipe.comparison op l r) := by
  obtain ⟨rfl, hName⟩ := Operand.eq_field_of_fieldName? hField
  obtain rfl := Operand.eq_constant_of_constant? hConstant
  have hField : evaluate env (Operand.field ("$" ++ name)).render = _ := evaluate_field hName
  have hLiteral : evaluate env (Operand.constant v).render = _ := evaluate_quoted (hl v hConstant)
  rw [truth_comparison_operands _ (op.isComparison_mirrored.trans hop) hField hLiteral,
    truth_comparison_operands _ hop hLiteral hField, BinaryOp.holds_mirrored, Value.compare_swap,
    BinaryOp.isInequality_mirrored, Bool.and_comm (Operand.admits _ _)]

theorem Exact.ofComparison {l r : Operand} {op : BinaryOp} (hop : op.isComparison = true)
    (hl : l.NotNull) (hr : r.NotNull)
    (hKinds : op.isInequality = true →
      l.OfOneKind env.document r ∧ r.OfOneKind env.document l) :
    Exact env (ofComparison op l r) (RelPipe.comparison op l r) := by
  unfold Filter.ofComparison ofComparison?
  split
  · rename_i hField hConstant
    exact .comparison hop hr (fun h => (hKinds h).1) hField hConstant
  · split
    · rename_i hField hConstant
      have hMirrored := op.isComparison_mirrored.trans hop
      have hExact : Exact env (.comparison _ op.mirrored _) (RelPipe.comparison op.mirrored r l) :=
        .comparison hMirrored hl (fun h => (hKinds (op.isInequality_mirrored.symm.trans h)).2)
          hField hConstant
      have hTruth : truth env _ = _ := truth_mirrored hop hl hField hConstant
      exact ⟨hExact.document.trans hTruth, hExact.expression.trans hTruth⟩
    · exact .computed _

theorem Exact.ofRange {test low high : Operand} (hl : low.NotNull) (hh : high.NotNull)
    (hLow : test.OfOneKind env.document low) (hHigh : test.OfOneKind env.document high) :
    Exact env (ofRange test low high) (rangeComparison test low high) := by
  unfold Filter.ofRange
  split
  · rename_i name v w hField hFirst hSecond
    have hName := (Operand.eq_field_of_fieldName? hField).2
    have hv := hl v hFirst
    have hw := hh w hSecond
    have hBelow := BinaryOp.greaterOrEqual.native_eq_guarded hv fun _ =>
      hLow.fieldValue hField hFirst
    have hAbove := BinaryOp.lessOrEqual.native_eq_guarded hw fun _ =>
      hHigh.fieldValue hField hSecond
    have hExpression : (range name v w).toExpression = rangeComparison test low high := by
      rw [toExpression, rangeComparison, fieldExpression_eq_comparison,
        fieldExpression_eq_comparison, (Operand.eq_field_of_fieldName? hField).1,
        Operand.eq_constant_of_constant? hFirst, Operand.eq_constant_of_constant? hSecond]
    rw [← hExpression]
    refine ⟨?_, rfl⟩
    rw [satisfies_range hName hv hw, truth_range hName hv hw, hBelow, hAbove]
  · exact .computed _

theorem render_constants {candidates : List Operand} (h : candidates.all Operand.isConstant = true) :
    candidates.map Operand.render = (candidates.filterMap Operand.constant?).map Value.quoted := by
  induction candidates with
  | nil => rfl
  | cons o candidates ih =>
    rw [List.all_cons, Bool.and_eq_true] at h
    cases o with
    | constant v => simpa [Operand.constant?, Operand.render] using ih h.2
    | _ => cases h.1

theorem Exact.ofMembership {left : Operand} {candidates : List Operand}
    (hCandidates : ∀ o ∈ candidates, o.NotNull) :
    Exact env (ofMembership left candidates)
      (.apply "$in" [left.render, .array (candidates.map Operand.render)]) := by
  unfold Filter.ofMembership
  split
  · rename_i name hField
    split
    · rename_i hConstants
      obtain ⟨rfl, hName⟩ := Operand.eq_field_of_fieldName? hField
      have hValues : ∀ v ∈ candidates.filterMap Operand.constant?, v.isLiteral = true := by
        intro v hv
        obtain ⟨o, ho, hConstant⟩ := List.mem_filterMap.mp hv
        exact hCandidates o ho v hConstant
      rw [render_constants hConstants]
      refine ⟨?_, rfl⟩
      rw [satisfies_among hName hValues]
      exact (truth_among hName hValues).symm
    · exact .computed _
  · exact .computed _

end Filter

end RelPipe
