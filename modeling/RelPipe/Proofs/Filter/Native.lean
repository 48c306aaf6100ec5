import RelPipe.Compile.Predicate
import RelPipe.Pipeline.Query
import RelPipe.Proofs.Pipeline.Truth

/-!
What native filters accept. A native comparison tests a field of the document against a literal;
written as an expression, it makes the same test with a guard in place of the kind check. The two
differ only on values of another kind than the literal.
-/

namespace RelPipe

set_option autoImplicit false

open Pipeline

def Value.isLiteral : Value → Bool
  | .boolean _ | .int32 _ | .int64 _ | .double _ | .decimal _ | .string _ | .date _
  | .binary _ _ => true
  | _ => false

theorem Constant.isLiteral_value {c : Constant} {v : Value} (h : c.value = .ok v)
    (hc : c ≠ .null) : v.isLiteral = true := by
  cases c with
  | null => exact absurd rfl hc
  | decimal text =>
    simp only [Constant.value] at h
    split at h
    · cases h
      rfl
    · cases h
  | _ =>
    cases h
    rfl

theorem Value.one_lt_rank_of_isLiteral {v : Value} (h : v.isLiteral = true) : 1 < v.rank := by
  cases v <;> simp_all [isLiteral, rank]

theorem Value.compare_null_of_isLiteral {v : Value} (h : v.isLiteral = true) :
    compare .null v = .lt :=
  compare_of_rank_lt (show rank .null < v.rank from one_lt_rank_of_isLiteral h)

theorem Value.compare_undefined_of_isLiteral {v : Value} (h : v.isLiteral = true) :
    compare .undefined v = .lt :=
  compare_of_rank_lt (show rank .undefined < v.rank from
    Nat.zero_lt_of_lt (one_lt_rank_of_isLiteral h))

def BinaryOp.guarded (op : BinaryOp) (x v : Value) : Bool :=
  (!op.isInequality || !x.isAbsent) && op.holds (x.compare v)

/-- Whether a native comparison of a field's value with a literal holds. Order is only tested
between values of one kind. -/
def BinaryOp.native (op : BinaryOp) (x v : Value) : Bool :=
  (!op.isInequality || x.rank == v.rank) && op.holds (x.compare v)

theorem BinaryOp.native_eq_guarded {x v : Value} (op : BinaryOp) (hv : v.isLiteral = true)
    (h : op.isInequality = true → x.isAbsent = true ∨ x.rank = v.rank) :
    op.native x v = op.guarded x v := by
  rw [native, guarded]
  cases hInequality : op.isInequality with
  | false => rfl
  | true =>
    have hLiteral := Value.one_lt_rank_of_isLiteral hv
    have hKinds := h hInequality
    have hKind : (x.rank == v.rank) = !x.isAbsent := by
      rw [Bool.eq_iff_iff, beq_iff_eq, Bool.not_eq_true', ← Bool.not_eq_true,
        Value.isAbsent_iff_rank]
      rw [Value.isAbsent_iff_rank] at hKinds
      omega
    rw [hKind]

theorem Text.toList_dollar_append (name : String) : ("$" ++ name).toList = '$' :: name.toList := by
  simp

namespace Pipeline

variable {env : Environment}

def Environment.fieldValue (env : Environment) (name : String) : Value :=
  (env.document.path? name).getD .undefined

theorem reference_of_not_dollar {s : String} (h : Text.dollar s = false) :
    env.reference s = .string s := by
  unfold Environment.reference
  split
  · rename_i hs
    simp [Text.dollar, hs] at h
  · rename_i hs
    simp [Text.dollar, hs] at h
  · rfl

theorem reference_field {name : String} (h : Text.dollar name = false) :
    env.reference ("$" ++ name) = env.fieldValue name := by
  unfold Environment.reference
  rw [Text.toList_dollar_append]
  split
  · rename_i hs
    simp only [List.cons.injEq, true_and] at hs
    simp [Text.dollar, hs] at h
  · rename_i hs
    simp only [List.cons.injEq, true_and] at hs
    rw [← hs, String.ofList_toList]
    rfl
  · rename_i hPath
    exact absurd rfl (hPath _)

theorem evaluate_field {name : String} (h : Text.dollar name = false) :
    evaluate env (.string ("$" ++ name)) = .ok (env.fieldValue name) := by
  rw [evaluate, reference_field h]

theorem evaluate_quoted {v : Value} (h : v.isLiteral = true) : evaluate env v.quoted = .ok v := by
  cases v with
  | string s =>
    rw [Value.quoted]
    split
    · rfl
    · rename_i hDollar
      rw [evaluate, reference_of_not_dollar (Bool.eq_false_iff.mpr hDollar)]
  | _ => first | rfl | cases h

theorem clauseGroup_of_not_dollar {name : String} (h : Text.dollar name = false) :
    ClauseGroup.ofName? name = none := by
  unfold ClauseGroup.ofName?
  split <;> first | rfl | cases h

theorem satisfies_single (name : String) (condition : Value) :
    satisfies env [(name, condition)] = satisfiesEntry env name condition := by
  rw [satisfies, satisfies]
  cases satisfiesEntry env name condition with
  | error e => rfl
  | ok b => cases b <;> rfl

theorem satisfies_field {name : String} (h : Text.dollar name = false) (condition : Value) :
    satisfies env [(name, condition)] = fieldMatches (env.document.path? name) condition := by
  have hExpr : name ≠ "$expr" := by
    rintro rfl
    cases h
  rw [satisfies_single, satisfiesEntry, clauseGroup_of_not_dollar h, if_neg hExpr, h]
  rfl

theorem compare_getD {v : Value} (hv : v.isLiteral = true) (x : Option Value) :
    (x.getD .null).compare v = (x.getD .undefined).compare v := by
  cases x with
  | some x => rfl
  | none =>
    exact (Value.compare_null_of_isLiteral hv).trans (Value.compare_undefined_of_isLiteral hv).symm

theorem equals_literal {v : Value} (hv : v.isLiteral = true) (x : Option Value) :
    equals x v = (x.getD .undefined).equivalent v := by
  unfold equals
  split
  · cases hv
  · cases hv
  · rfl
  · rw [Option.getD_none, Value.equivalent, Value.compare_undefined_of_isLiteral hv]
    rfl

theorem fieldMatches_literal {v : Value} (hv : v.isLiteral = true) (x : Option Value) :
    fieldMatches x v = .ok ((x.getD .undefined).equivalent v) := by
  rw [← equals_literal hv]
  cases v <;> first | rfl | cases hv

theorem operatorMatches_literal (operators : Document) {op : BinaryOp}
    (hop : op.isComparison = true) {v : Value} (hv : v.isLiteral = true) (x : Option Value) :
    operatorMatches operators (x.getD .null) op.operator v =
      .ok (op.native (x.getD .undefined) v) := by
  have hOrder := compare_getD hv x
  have hKind : ((x.getD .null).rank == v.rank) = ((x.getD .undefined).rank == v.rank) := by
    cases x with
    | some x => rfl
    | none =>
      have hLiteral := Value.one_lt_rank_of_isLiteral hv
      change (1 == v.rank) = (0 == v.rank)
      rw [Bool.eq_iff_iff, beq_iff_eq, beq_iff_eq]
      omega
  have hEquals : equals (some (x.getD .null)) v = (x.getD .undefined).equivalent v := by
    rw [equals_literal hv, Option.getD_some, Value.equivalent, hOrder, Value.equivalent]
  have hOrdered : ∀ c : Comparison, ordered c (x.getD .null) v =
      ((x.getD .undefined).rank == v.rank && c.holds ((x.getD .undefined).compare v)) := by
    intro c
    rw [ordered, hOrder, hKind]
  cases op with
  | equal => exact congrArg Except.ok hEquals
  | notEqual => exact congrArg (fun b => Except.ok !b) hEquals
  | less => exact congrArg Except.ok (hOrdered .lt)
  | lessOrEqual => exact congrArg Except.ok (hOrdered .lte)
  | greater => exact congrArg Except.ok (hOrdered .gt)
  | greaterOrEqual => exact congrArg Except.ok (hOrdered .gte)
  | _ => cases hop

theorem operatorsMatch_cons (operators rest : Document) {op : BinaryOp}
    (hop : op.isComparison = true) {v : Value} (hv : v.isLiteral = true) (x : Option Value) :
    operatorsMatch operators (x.getD .null) ((op.operator, v) :: rest) =
      if op.native (x.getD .undefined) v then operatorsMatch operators (x.getD .null) rest
      else .ok false := by
  have hNot : op.operator ≠ "$not" := by cases op <;> decide
  rw [operatorsMatch, if_neg hNot, operatorMatches_literal operators hop hv]
  rfl

end Pipeline

namespace Filter

variable {env : Environment}

theorem satisfies_comparison {name : String} (hName : Text.dollar name = false) {op : BinaryOp}
    (hop : op.isComparison = true) {v : Value} (hv : v.isLiteral = true) :
    satisfies env (comparison name op v).toDocument = .ok (op.native (env.fieldValue name) v) := by
  by_cases hEqual : op = .equal
  · subst hEqual
    rw [toDocument, satisfies_field hName, fieldMatches_literal hv]
    rfl
  · have hDocument : (comparison name op v).toDocument = [(name, .single op.operator v)] := by
      cases op <;> first | rfl | exact absurd rfl hEqual
    have hOperators : isOperatorDocument (.document [(op.operator, v)]) = true := by
      obtain ⟨_, _, hDollar, _⟩ := ofName?_operator hop
      simp [isOperatorDocument, hDollar]
    rw [hDocument, satisfies_field hName, Value.single, fieldMatches, if_pos hOperators,
      operatorsMatch_cons _ _ hop hv, operatorsMatch]
    change (if op.native (env.fieldValue name) v then _ else _) = _
    cases op.native (env.fieldValue name) v <;> rfl

theorem satisfies_range {name : String} (hName : Text.dollar name = false) {low high : Value}
    (hLow : low.isLiteral = true) (hHigh : high.isLiteral = true) :
    satisfies env (range name low high).toDocument =
      .ok (BinaryOp.greaterOrEqual.native (env.fieldValue name) low &&
        BinaryOp.lessOrEqual.native (env.fieldValue name) high) := by
  have hFirst := operatorsMatch_cons [("$gte", low), ("$lte", high)] [("$lte", high)]
    (show BinaryOp.greaterOrEqual.isComparison = true from rfl) hLow (env.document.path? name)
  have hSecond := operatorsMatch_cons [("$gte", low), ("$lte", high)] []
    (show BinaryOp.lessOrEqual.isComparison = true from rfl) hHigh (env.document.path? name)
  have hOperators : isOperatorDocument (.document [("$gte", low), ("$lte", high)]) = true := by
    simp [isOperatorDocument, Text.dollar]
  rw [toDocument, satisfies_field hName, fieldMatches, if_pos hOperators]
  refine hFirst.trans ?_
  change (if BinaryOp.greaterOrEqual.native (env.fieldValue name) low then _ else _) = _
  cases BinaryOp.greaterOrEqual.native (env.fieldValue name) low with
  | false => rfl
  | true =>
    refine hSecond.trans ?_
    change (if BinaryOp.lessOrEqual.native (env.fieldValue name) high then _ else _) = _
    cases BinaryOp.lessOrEqual.native (env.fieldValue name) high <;> rfl

theorem satisfies_among {name : String} (hName : Text.dollar name = false) {values : List Value}
    (hValues : ∀ v ∈ values, v.isLiteral = true) :
    satisfies env (among name values).toDocument =
      .ok (values.any fun v => (env.fieldValue name).equivalent v) := by
  have hOperators : isOperatorDocument (.document [("$in", .array values)]) = true := by
    simp [isOperatorDocument, Text.dollar]
  have hAny : (values.any fun v => equals (some ((env.document.path? name).getD .null)) v) =
      values.any fun v => (env.fieldValue name).equivalent v := by
    rw [Bool.eq_iff_iff, List.any_eq_true, List.any_eq_true]
    refine exists_congr fun v => and_congr_right fun hMember => ?_
    rw [equals_literal (hValues v hMember), Option.getD_some, Value.equivalent,
      compare_getD (hValues v hMember), Value.equivalent]
    rfl
  have hNot : "$in" ≠ "$not" := by decide
  rw [toDocument, satisfies_field hName, Value.single, fieldMatches, if_pos hOperators,
    operatorsMatch, if_neg hNot, operatorMatches, operatorsMatch, hAny]
  cases values.any fun v => (env.fieldValue name).equivalent v <;> rfl

theorem satisfies_computed (v : Value) : satisfies env (computed v).toDocument = truth env v := by
  rw [toDocument, satisfies_single, satisfiesEntry]
  rfl

theorem toDocuments_all_isDocument (fs : List Filter) :
    (toDocuments fs).all isDocument = true := by
  induction fs with
  | nil => rfl
  | cons f fs ih => simpa [toDocuments, isDocument] using ih

theorem satisfies_clauses {name : String} {group : ClauseGroup}
    (hName : ClauseGroup.ofName? name = some group) (fs : List Filter) :
    satisfies env [(name, .array (toDocuments fs))] =
      (satisfiesEach env (toDocuments fs)).map group.holds := by
  rw [satisfies_single, satisfiesEntry, hName]
  exact if_pos (toDocuments_all_isDocument fs)

theorem satisfiesEach_cons (f : Filter) (fs : List Filter) :
    satisfiesEach env (toDocuments (f :: fs)) =
      (satisfies env f.toDocument).bind fun b =>
        (satisfiesEach env (toDocuments fs)).map (b :: ·) := by
  rw [toDocuments, satisfiesEach]
  cases satisfies env f.toDocument with
  | error e => rfl
  | ok b => cases satisfiesEach env (toDocuments fs) <;> rfl

theorem satisfies_negation (f : Filter) :
    satisfies env (negation f).toDocument = (satisfies env f.toDocument).map not := by
  have hClauses : (negation f).toDocument = [("$nor", .array (toDocuments [f]))] := by
    simp only [toDocument, toDocuments]
  rw [hClauses, satisfies_clauses rfl, satisfiesEach_cons, toDocuments, satisfiesEach]
  cases satisfies env f.toDocument with
  | error e => rfl
  | ok b => cases b <;> rfl

theorem satisfies_group (op : GroupOp) (fs : List Filter) :
    satisfies env (group op fs).toDocument =
      (satisfiesEach env (toDocuments fs)).map op.holds := by
  rw [toDocument]
  cases op with
  | and => exact satisfies_clauses (show ClauseGroup.ofName? "$and" = some .all from rfl) fs
  | or => exact satisfies_clauses (show ClauseGroup.ofName? "$or" = some .any from rfl) fs

end Filter

/-- Whether the guard of an operand lets a value pass. Only fields are guarded. -/
def Operand.admits (o : Operand) (x : Value) : Bool := !o.isField || !x.isAbsent

section

variable {env : Environment}

theorem evaluateAll_guards {op : BinaryOp} (hop : op.isInequality = true) {l r : Operand}
    {x y : Value} (hl : evaluate env l.render = .ok x) (hr : evaluate env r.render = .ok y) :
    evaluateAll env (guards op l r) = .ok (l.admits x && r.admits y) := by
  have hLeft := truth_present hl
  have hRight := truth_present hr
  rw [guards, if_pos hop, Operand.admits, Operand.admits]
  cases hFirst : l.isField <;> cases hSecond : r.isField <;>
    simp only [List.filter_cons, List.filter_nil, hFirst, hSecond, if_true, Bool.false_eq_true,
      if_false, List.map_cons, List.map_nil]
  · rfl
  · exact (evaluateAll_ok (.cons hRight .nil)).trans (by simp)
  · exact (evaluateAll_ok (.cons hLeft .nil)).trans (by simp)
  · exact (evaluateAll_ok (.cons hLeft (.cons hRight .nil))).trans (by simp)

/-- A computed comparison holds if its test does and its guards let both operands pass. -/
theorem truth_comparison_operands (op : BinaryOp) (hop : op.isComparison = true) {l r : Operand}
    {x y : Value} (hl : evaluate env l.render = .ok x) (hr : evaluate env r.render = .ok y) :
    truth env (comparison op l r) =
      .ok (op.holds (x.compare y) && (!op.isInequality || (l.admits x && r.admits y))) := by
  have hPlain := truth_comparison op hop hl hr
  have hAll : truth env (comparison op l r) =
      evaluateAll env (.apply op.operator [l.render, r.render] :: guards op l r) := by
    unfold comparison
    split
    · rename_i hNone
      rw [hNone, hPlain]
      exact ((evaluateAll_ok (.cons hPlain .nil)).trans (by simp)).symm
    · exact truth_and _
  rw [hAll, evaluateAll_cons, hPlain]
  cases hInequality : op.isInequality with
  | false =>
    rw [guards, hInequality]
    cases op.holds (x.compare y) <;> rfl
  | true =>
    rw [evaluateAll_guards hInequality hl hr]
    cases op.holds (x.compare y) <;> rfl

theorem evaluateEach_quoted {values : List Value} (h : ∀ v ∈ values, v.isLiteral = true) :
    evaluateEach env (values.map Value.quoted) = .ok values := by
  induction values with
  | nil => rfl
  | cons v values ih =>
    obtain ⟨hHead, hTail⟩ := List.forall_mem_cons.mp h
    rw [List.map_cons, evaluateEach, evaluate_quoted hHead, ih hTail]
    rfl

theorem map_presentOrNull {values : List Value} (h : ∀ v ∈ values, v.isLiteral = true) :
    values.map Value.presentOrNull = values := by
  refine (List.map_congr_left fun v hMember => ?_).trans (List.map_id _)
  have hLiteral := h v hMember
  cases v <;> first | rfl | cases hLiteral

theorem truth_member {e x : Value} (he : evaluate env e = .ok x) {values : List Value}
    (hValues : ∀ v ∈ values, v.isLiteral = true) :
    truth env (.apply "$in" [e, .array (values.map Value.quoted)]) =
      .ok (values.any fun v => x.equivalent v) := by
  have hName : Operator.ofName? "$in" = some (.onValues .member) := rfl
  have hArray : evaluate env (.array (values.map Value.quoted)) = .ok (.array values) := by
    rw [evaluate, evaluateEach_quoted hValues]
    change Except.ok (Value.array (values.map Value.presentOrNull)) = _
    rw [map_presentOrNull hValues]
  have hAny : (values.any fun v => v.equivalent x) = values.any fun v => x.equivalent v := by
    congr 1
    funext v
    exact Value.equivalent_comm v x
  have hValue : evaluate env (.apply "$in" [e, .array (values.map Value.quoted)]) =
      .ok (.boolean (values.any fun v => v.equivalent x)) := by
    rw [evaluate_onValues hName rfl, evaluateEach_pair he hArray]
    rfl
  rw [truth_of_evaluate hValue, ← hAny]
  rfl

end

theorem Operand.eq_field_of_fieldName? {o : Operand} {name : String}
    (h : o.fieldName? = some name) : o = .field ("$" ++ name) ∧ Text.dollar name = false := by
  cases o with
  | field path =>
    rw [fieldName?] at h
    split at h
    · cases h
    · rename_i hPath
      obtain ⟨rest, hRest, rfl⟩ := Option.map_eq_some_iff.mp h
      have hList : path.toList = '$' :: rest := by
        cases hChars : path.toList with
        | nil => simp [Text.afterStart?, hChars] at hRest
        | cons c cs =>
          simp [Text.afterStart?, hChars] at hRest
          rw [hRest.1, hRest.2]
      refine ⟨?_, ?_⟩
      · congr 1
        rw [← String.toList_inj, Text.toList_dollar_append, String.toList_ofList, hList]
      · simp only [Text.doubleDollar, hList] at hPath
        cases rest with
        | nil => rfl
        | cons c cs =>
          simp only [Text.dollar, String.toList_ofList, List.head?_cons]
          simp [List.isPrefixOf] at hPath
          simpa using Ne.symm hPath
  | _ => cases h

theorem Operand.eq_constant_of_constant? {o : Operand} {v : Value} (h : o.constant? = some v) :
    o = .constant v := by
  cases o with
  | constant w =>
    cases h
    rfl
  | _ => cases h

namespace Filter

variable {env : Environment}

theorem fieldExpression_eq_comparison (name : String) (op : BinaryOp) (v : Value) :
    fieldExpression name op v =
      RelPipe.comparison op (.field ("$" ++ name)) (.constant v) := by
  unfold fieldExpression RelPipe.comparison guards
  cases op.isInequality <;> rfl

/-- Written as an expression, a native comparison is guarded instead of bound to one kind. -/
theorem truth_fieldExpression {name : String} (hName : Text.dollar name = false) {op : BinaryOp}
    (hop : op.isComparison = true) {v : Value} (hv : v.isLiteral = true) :
    truth env (fieldExpression name op v) = .ok (op.guarded (env.fieldValue name) v) := by
  rw [fieldExpression_eq_comparison,
    truth_comparison_operands op hop (evaluate_field hName) (evaluate_quoted hv), BinaryOp.guarded,
    Bool.and_comm]
  simp [Operand.admits, Operand.isField]

theorem truth_range {name : String} (hName : Text.dollar name = false) {low high : Value}
    (hLow : low.isLiteral = true) (hHigh : high.isLiteral = true) :
    truth env (range name low high).toExpression =
      .ok (BinaryOp.greaterOrEqual.guarded (env.fieldValue name) low &&
        BinaryOp.lessOrEqual.guarded (env.fieldValue name) high) := by
  have hFirst : truth env (fieldExpression name .greaterOrEqual low) = _ :=
    truth_fieldExpression hName rfl hLow
  have hSecond : truth env (fieldExpression name .lessOrEqual high) = _ :=
    truth_fieldExpression hName rfl hHigh
  rw [toExpression, truth_and]
  exact (evaluateAll_ok (.cons hFirst (.cons hSecond .nil))).trans (by simp)

theorem truth_among {name : String} (hName : Text.dollar name = false) {values : List Value}
    (hValues : ∀ v ∈ values, v.isLiteral = true) :
    truth env (among name values).toExpression =
      .ok (values.any fun v => (env.fieldValue name).equivalent v) := by
  rw [toExpression]
  exact truth_member (evaluate_field hName) hValues

theorem truth_negation (f : Filter) :
    truth env (negation f).toExpression = (truth env f.toExpression).map not := by
  rw [toExpression, truth_not, truth_or, evaluateAny_cons, evaluateAny]
  cases truth env f.toExpression with
  | error e => rfl
  | ok b => cases b <;> rfl

end Filter

end RelPipe
