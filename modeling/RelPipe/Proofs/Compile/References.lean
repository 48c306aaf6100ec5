import RelPipe.Compile.Projection
import RelPipe.Proofs.Compile.Clause
import RelPipe.Proofs.Filter.Exact
import RelPipe.Proofs.Pipeline.FreeReferences

/-!
What compiled operands and filters refer to: to what their parts refer to, and to nothing else. A
constant is never a reference. A filter refers to the same fields and variables when it is matched
natively as when it is computed.
-/

namespace RelPipe

set_option autoImplicit false

variable {r : String} {P : String → Prop}

theorem BinaryOp.operator_plain (op : BinaryOp) :
    op.operator ≠ "$literal" ∧ op.operator ≠ "$reduce" := by
  cases op <;> decide

theorem GroupOp.operator_plain (op : GroupOp) :
    op.operator ≠ "$literal" ∧ op.operator ≠ "$reduce" := by
  cases op <;> decide

/-! Operands -/

def Operand.freeReferences (o : Operand) : List String := o.render.freeReferences

/-- An operand that is a constant holds no reference. -/
def Operand.Plain (o : Operand) : Prop := o.isConstant = true → o.freeReferences = []

theorem Operand.mem_freeReferences_projected {o : Operand} (h : o.Plain) :
    r ∈ o.projected.freeReferences ↔ r ∈ o.freeReferences := by
  unfold Operand.projected
  split
  · rfl
  · rw [h rfl, Value.freeReferences_literal]
  · rfl

theorem Constant.freeReferences_value {c : Constant} {v : Value} (h : c.value = .ok v) :
    (Operand.constant v).freeReferences = [] := by
  cases c with
  | string s =>
    cases h
    rw [Operand.freeReferences, Operand.render, Value.quoted]
    split
    · rfl
    · rename_i hDollar
      rw [Value.freeReferences, if_neg hDollar]
  | decimal text =>
    rw [value] at h
    split at h <;> cases h
    rfl
  | _ =>
    cases h
    rfl

theorem UnaryOp.mem_freeReferences_apply {op : UnaryOp} {o : Operand} :
    r ∈ (op.apply o).freeReferences ↔ r ∈ o.freeReferences := by
  cases op <;> simp [apply, Operand.freeReferences, Operand.render]

theorem mem_freeReferences_comparison (op : BinaryOp) {left right : Operand} :
    r ∈ (comparison op left right).freeReferences ↔
      r ∈ left.freeReferences ∨ r ∈ right.freeReferences := by
  have hPlain : r ∈ (Value.apply op.operator [left.render, right.render]).freeReferences ↔
      r ∈ left.freeReferences ∨ r ∈ right.freeReferences := by
    rw [Value.mem_freeReferences_apply op.operator_plain]
    simp [Operand.freeReferences]
  -- A guard repeats an operand of the comparison.
  have hGuards : ∀ guard ∈ guards op left right, r ∈ guard.freeReferences →
      r ∈ left.freeReferences ∨ r ∈ right.freeReferences := by
    intro guard hGuard hr
    unfold guards at hGuard
    split at hGuard
    · obtain ⟨o, ho, rfl⟩ := List.mem_map.mp hGuard
      rw [Value.mem_freeReferences_present] at hr
      have hEither : o = left ∨ o = right := by simpa using (List.mem_filter.mp ho).1
      obtain rfl | rfl := hEither
      · exact .inl hr
      · exact .inr hr
    · cases hGuard
  unfold comparison
  dsimp only
  split
  · exact hPlain
  · rw [Value.mem_freeReferences_apply (by decide), List.exists_mem_cons_iff, hPlain]
    constructor
    · rintro (hr | ⟨guard, hGuard, hr⟩)
      · exact hr
      · exact hGuards guard hGuard hr
    · exact .inl

theorem mem_freeReferences_rangeComparison {test low high : Operand} :
    r ∈ (rangeComparison test low high).freeReferences ↔
      r ∈ test.freeReferences ∨ r ∈ low.freeReferences ∨ r ∈ high.freeReferences := by
  rw [rangeComparison, Value.mem_freeReferences_apply (by decide)]
  simp only [List.mem_cons, List.not_mem_nil, or_false, exists_eq_or_imp, exists_eq_left,
    mem_freeReferences_comparison]
  tauto

theorem BinaryOp.mem_freeReferences_apply (op : BinaryOp) {left right : Operand} :
    r ∈ (op.apply left right).freeReferences ↔
      r ∈ left.freeReferences ∨ r ∈ right.freeReferences := by
  unfold apply
  split
  · exact mem_freeReferences_comparison op
  · rw [Operand.freeReferences, Operand.render, Value.mem_freeReferences_apply op.operator_plain]
    simp [Operand.freeReferences]

/-! Filters -/

namespace Filter

def freeReferences (f : Filter) : List String := f.toExpression.freeReferences

/-- A filter refers to the same when it is matched natively as when it is computed. -/
def Uniform (f : Filter) : Prop :=
  ∀ r, r ∈ Pipeline.filterFreeReferences f.toDocument ↔ r ∈ f.freeReferences

theorem Uniform.computed (v : Value) : (Filter.computed v).Uniform := by
  intro r
  rw [toDocument, Pipeline.filterFreeReferences, Pipeline.filterFreeReferences, List.append_nil,
    Pipeline.entryFreeReferences.eq_def]
  rfl

theorem filterFreeReferences_field {name : String} (h : Text.dollar name = false)
    (condition : Value) :
    Pipeline.filterFreeReferences [(name, condition)] = ["$" ++ name] := by
  have hExpr : name ≠ "$expr" := by
    rintro rfl
    cases h
  rw [Pipeline.filterFreeReferences, Pipeline.filterFreeReferences,
    Pipeline.entryFreeReferences.eq_def, Pipeline.clauseGroup_of_not_dollar h, List.append_nil]
  exact if_neg hExpr

theorem exists_condition_comparison (name : String) (op : BinaryOp) (v : Value) :
    ∃ condition, (comparison name op v).toDocument = [(name, condition)] := by
  cases op <;> exact ⟨_, rfl⟩

section

variable {field : Operand} {name : String}

theorem mem_filterFreeReferences_field (hField : field.fieldName? = some name)
    {condition : Value} :
    r ∈ Pipeline.filterFreeReferences [(name, condition)] ↔ r ∈ field.freeReferences := by
  obtain ⟨rfl, hName⟩ := Operand.eq_field_of_fieldName? hField
  rw [filterFreeReferences_field hName, List.mem_singleton, Operand.freeReferences, Operand.render,
    Value.mem_freeReferences_string]
  simp [Text.dollar]

theorem mem_freeReferences_fieldExpression (hField : field.fieldName? = some name) (op : BinaryOp)
    {v : Value} :
    r ∈ (fieldExpression name op v).freeReferences ↔
      r ∈ field.freeReferences ∨ r ∈ (Operand.constant v).freeReferences := by
  obtain ⟨rfl, _⟩ := Operand.eq_field_of_fieldName? hField
  rw [fieldExpression_eq_comparison]
  exact mem_freeReferences_comparison op

theorem Uniform.comparison (hField : field.fieldName? = some name) (op : BinaryOp) {v : Value}
    (hv : (Operand.constant v).Plain) : (Filter.comparison name op v).Uniform := by
  intro r
  obtain ⟨condition, hDocument⟩ := exists_condition_comparison name op v
  rw [hDocument, mem_filterFreeReferences_field hField, freeReferences, toExpression,
    mem_freeReferences_fieldExpression hField, hv rfl]
  simp

end

theorem Uniform.ofComparison (op : BinaryOp) {left right : Operand} (hl : left.Plain)
    (hr : right.Plain) : (Filter.ofComparison op left right).Uniform := by
  unfold Filter.ofComparison ofComparison?
  split
  · rename_i hField hConstant
    obtain rfl := Operand.eq_constant_of_constant? hConstant
    exact .comparison hField op hr
  · split
    · rename_i hField hConstant
      obtain rfl := Operand.eq_constant_of_constant? hConstant
      exact .comparison hField op.mirrored hl
    · exact .computed _

theorem mem_freeReferences_ofComparison (op : BinaryOp) {left right : Operand} :
    r ∈ (Filter.ofComparison op left right).freeReferences ↔
      r ∈ left.freeReferences ∨ r ∈ right.freeReferences := by
  unfold Filter.ofComparison ofComparison?
  split
  · rename_i hField hConstant
    obtain rfl := Operand.eq_constant_of_constant? hConstant
    exact mem_freeReferences_fieldExpression hField op
  · split
    · rename_i hField hConstant
      obtain rfl := Operand.eq_constant_of_constant? hConstant
      exact (mem_freeReferences_fieldExpression hField op.mirrored).trans or_comm
    · exact mem_freeReferences_comparison op

theorem mem_freeReferences_ofRange {test low high : Operand} :
    r ∈ (Filter.ofRange test low high).freeReferences ↔
      r ∈ test.freeReferences ∨ r ∈ low.freeReferences ∨ r ∈ high.freeReferences := by
  have hRange : r ∈ (rangeComparison test low high).freeReferences ↔ _ :=
    mem_freeReferences_rangeComparison
  unfold Filter.ofRange
  split
  · rename_i hField hLow hHigh
    obtain ⟨rfl, _⟩ := Operand.eq_field_of_fieldName? hField
    obtain rfl := Operand.eq_constant_of_constant? hLow
    obtain rfl := Operand.eq_constant_of_constant? hHigh
    rw [freeReferences, toExpression, fieldExpression_eq_comparison, fieldExpression_eq_comparison]
    exact hRange
  · exact hRange

theorem Uniform.ofRange {test low high : Operand} (hl : low.Plain) (hh : high.Plain) :
    (Filter.ofRange test low high).Uniform := by
  intro r
  rw [mem_freeReferences_ofRange]
  unfold Filter.ofRange
  split
  · rename_i hField hLow hHigh
    obtain rfl := Operand.eq_constant_of_constant? hLow
    obtain rfl := Operand.eq_constant_of_constant? hHigh
    rw [toDocument, mem_filterFreeReferences_field hField, hl rfl, hh rfl]
    simp
  · rw [Uniform.computed]
    exact mem_freeReferences_rangeComparison

theorem mem_freeReferences_ofMembership {left : Operand} {candidates : List Operand} :
    r ∈ (Filter.ofMembership left candidates).freeReferences ↔
      r ∈ left.freeReferences ∨ ∃ c ∈ candidates, r ∈ c.freeReferences := by
  have hComputed :
      r ∈ (Value.apply "$in" [left.render, .array (candidates.map Operand.render)]).freeReferences ↔
        r ∈ left.freeReferences ∨ ∃ c ∈ candidates, r ∈ c.freeReferences := by
    simp [Operand.freeReferences]
  unfold Filter.ofMembership
  split
  · rename_i hField
    split
    · rename_i hConstants
      rw [render_constants hConstants] at hComputed
      obtain ⟨rfl, _⟩ := Operand.eq_field_of_fieldName? hField
      exact hComputed
    · exact hComputed
  · exact hComputed

theorem Uniform.ofMembership {left : Operand} {candidates : List Operand}
    (h : ∀ c ∈ candidates, c.Plain) : (Filter.ofMembership left candidates).Uniform := by
  intro r
  rw [mem_freeReferences_ofMembership]
  unfold Filter.ofMembership
  split
  · rename_i hField
    split
    · rename_i hConstants
      rw [toDocument, mem_filterFreeReferences_field hField]
      have hNone : ¬ ∃ c ∈ candidates, r ∈ c.freeReferences := by
        rintro ⟨c, hc, hr⟩
        rw [h c hc (List.all_eq_true.mp hConstants c hc)] at hr
        cases hr
      simp [hNone]
    · rw [Uniform.computed]
      simp [freeReferences, toExpression, Operand.freeReferences]
  · rw [Uniform.computed]
    simp [freeReferences, toExpression, Operand.freeReferences]

theorem toExpressions_eq_map (fs : List Filter) : toExpressions fs = fs.map toExpression := by
  induction fs with
  | nil => rfl
  | cons f fs ih => rw [toExpressions, ih, List.map_cons]

theorem toDocuments_eq_map (fs : List Filter) :
    toDocuments fs = (fs.map toDocument).map .document := by
  induction fs with
  | nil => rfl
  | cons f fs ih => rw [toDocuments, ih, List.map_cons, List.map_cons]

theorem mem_freeReferences_toExpressions {fs : List Filter} :
    (∃ v ∈ toExpressions fs, r ∈ v.freeReferences) ↔ ∃ f ∈ fs, r ∈ f.freeReferences := by
  induction fs with
  | nil => simp [toExpressions]
  | cons f fs ih => rw [toExpressions, List.exists_mem_cons_iff, List.exists_mem_cons_iff, ih]; rfl

theorem mem_clauseFreeReferences_toDocuments {fs : List Filter} (h : ∀ f ∈ fs, f.Uniform) :
    r ∈ Pipeline.clauseFreeReferences (toDocuments fs) ↔ ∃ f ∈ fs, r ∈ f.freeReferences := by
  induction fs with
  | nil => simp [toDocuments, Pipeline.clauseFreeReferences]
  | cons f fs ih =>
    obtain ⟨hFirst, hRest⟩ := List.forall_mem_cons.mp h
    rw [toDocuments, Pipeline.clauseFreeReferences, List.mem_append, hFirst r, ih hRest,
      List.exists_mem_cons_iff]

theorem filterFreeReferences_clauses {name : String}
    (hName : (Pipeline.ClauseGroup.ofName? name).isSome) (clauses : List Value) :
    Pipeline.filterFreeReferences [(name, .array clauses)] =
      Pipeline.clauseFreeReferences clauses := by
  obtain ⟨group, hGroup⟩ := Option.isSome_iff_exists.mp hName
  rw [Pipeline.filterFreeReferences, Pipeline.filterFreeReferences,
    Pipeline.entryFreeReferences.eq_def, hGroup, List.append_nil]

theorem mem_freeReferences_negation {f : Filter} :
    r ∈ (Filter.negation f).freeReferences ↔ r ∈ f.freeReferences := by
  simp [freeReferences, toExpression]

theorem Uniform.negation {f : Filter} (h : f.Uniform) : (Filter.negation f).Uniform := by
  intro r
  have hClauses := mem_clauseFreeReferences_toDocuments (r := r) (List.forall_mem_singleton.mpr h)
  rw [toDocument, filterFreeReferences_clauses rfl, mem_freeReferences_negation]
  simpa [toDocuments] using hClauses

theorem mem_freeReferences_ofGroup? {op : GroupOp} {fs : List Filter} {f : Filter}
    (hf : ofGroup? op fs = some f) :
    r ∈ f.freeReferences ↔ ∃ f ∈ fs, r ∈ f.freeReferences := by
  have hExpression : r ∈ (Value.apply op.operator (toExpressions fs)).freeReferences ↔
      ∃ f ∈ fs, r ∈ f.freeReferences := by
    rw [Value.mem_freeReferences_apply op.operator_plain, mem_freeReferences_toExpressions]
  unfold Filter.ofGroup? at hf
  split at hf
  · cases hf
  · split at hf <;> cases hf <;> exact hExpression

theorem Uniform.ofGroup? {op : GroupOp} {fs : List Filter} {f : Filter}
    (h : ∀ f ∈ fs, f.Uniform) (hf : ofGroup? op fs = some f) : f.Uniform := by
  intro r
  rw [mem_freeReferences_ofGroup? hf]
  unfold Filter.ofGroup? at hf
  split at hf
  · cases hf
  · split at hf
    · cases hf
      rw [Uniform.computed, freeReferences, toExpression,
        Value.mem_freeReferences_apply op.operator_plain, mem_freeReferences_toExpressions]
    · cases hf
      rw [toDocument, filterFreeReferences_clauses (by cases op <;> rfl)]
      exact mem_clauseFreeReferences_toDocuments h

end Filter

/-! References with a property -/

/-- Every reference of a value has a property. -/
def Value.RefersWithin (P : String → Prop) (v : Value) : Prop := ∀ r ∈ v.references, P r

theorem Value.refersWithin_string {s : String} : (Value.string s).RefersWithin P ↔
    (Text.dollar s = true → P s) := by
  rw [RefersWithin, references]
  split <;> simp_all

theorem Value.refersWithin_of_free {v : Value} (hFold : ∀ r, isFoldVariable r = true → P r)
    (h : ∀ r ∈ v.freeReferences, P r) : v.RefersWithin P := by
  intro r hr
  obtain hr | hr := mem_freeReferences_of_mem_references v hr
  · exact h r hr
  · exact hFold r hr

def Operand.RefersWithin (P : String → Prop) (o : Operand) : Prop := o.render.RefersWithin P

theorem Operand.RefersWithin.projected {o : Operand} (h : o.RefersWithin P) :
    o.projected.RefersWithin P := by
  unfold Operand.projected
  split
  · exact h
  · exact List.forall_mem_nil _
  · exact h

/-- Every reference of a filter has a property, be it matched natively or computed. -/
structure Filter.RefersWithin (P : String → Prop) (f : Filter) : Prop where
  document : ∀ r ∈ Pipeline.filterReferences f.toDocument, P r
  expression : f.toExpression.RefersWithin P

theorem Filter.Uniform.refersWithin {f : Filter} (hUniform : f.Uniform)
    (hFold : ∀ r, Value.isFoldVariable r = true → P r) (h : ∀ r ∈ f.freeReferences, P r) :
    f.RefersWithin P := by
  refine ⟨fun r hr => ?_, Value.refersWithin_of_free hFold h⟩
  obtain hr | hr := Pipeline.mem_filterFreeReferences_of_mem _ hr
  · exact h r ((hUniform r).mp hr)
  · exact hFold r hr

end RelPipe
