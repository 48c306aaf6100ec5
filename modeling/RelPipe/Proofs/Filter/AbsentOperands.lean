import RelPipe.Proofs.Filter.NullLogic

/-!
Order tests with absent operands. A test of two values guards its operands only where they are
fields: a computed operand that comes out null is compared like any other value, and null is below
all of them. A field of the document that is tested against the constant null is compared natively,
where null and missing are equal to null.
-/

namespace RelPipe

set_option autoImplicit false

open Pipeline

/-- The field of the document that a comparison tests against the constant null. -/
def Operand.nullTested? (left right : Operand) : Option String :=
  match left.fieldName?, right.constant? with
  | some name, some .null => some name
  | _, _ =>
    match right.fieldName?, left.constant? with
    | some name, some .null => some name
    | _, _ => none

def BinaryOp.acceptsAbsent (op : BinaryOp) (d : Document) (left right : Operand) (x y : Value) :
    Bool :=
  match left.nullTested? right with
  | some name => op.holds .eq && (d.path? name).getD .null == .null
  | none => left.admits x && right.admits y && op.holds (x.compare y)

theorem Operand.nullTested?_constant {field constant : Operand} {name : String} {v : Value}
    (hField : field.fieldName? = some name) (hConstant : constant.constant? = some v) :
    field.nullTested? constant = (if v = .null then some name else none) ∧
      constant.nullTested? field = if v = .null then some name else none := by
  obtain ⟨rfl, _⟩ := eq_field_of_fieldName? hField
  obtain rfl := eq_constant_of_constant? hConstant
  have hOther : (constant v).fieldName? = none := rfl
  unfold nullTested?
  rw [hField, hConstant, hOther]
  cases v <;> exact ⟨rfl, rfl⟩

/-- A constant is the constant null or denotes a literal. -/
def Operand.Denotes (o : Operand) : Prop :=
  ∀ v, o.constant? = some v → v ≠ .null → v.isLiteral = true

namespace Filter

variable {env : Environment}

theorem satisfies_comparison_null {name : String} (hName : Text.dollar name = false)
    {op : BinaryOp} (hop : op.isInequality = true) :
    satisfies env (comparison name op .null).toDocument =
      .ok (op.holds .eq && (env.document.path? name).getD .null == .null) := by
  have hDocument : (comparison name op .null).toDocument = [(name, .single op.operator .null)] := by
    cases op <;> first | rfl | cases hop
  have hOperators : isOperatorDocument (.document [(op.operator, .null)]) = true := by
    cases op <;> rfl
  have hNot : op.operator ≠ "$not" := by cases op <;> decide
  have hTest : ∀ (c : Comparison) (x : Value),
      ordered c x .null = (c.holds .eq && x == .null) := by
    intro c x
    cases x <;> cases c <;> rfl
  rw [hDocument, satisfies_field hName, Value.single, fieldMatches, if_pos hOperators,
    operatorsMatch, if_neg hNot, operatorsMatch]
  generalize (env.document.path? name).getD .null = x
  have hMatches : operatorMatches [(op.operator, .null)] x op.operator .null =
      .ok (op.holds .eq && x == .null) := by
    cases op with
    | less => exact congrArg Except.ok (hTest .lt x)
    | lessOrEqual => exact congrArg Except.ok (hTest .lte x)
    | greater => exact congrArg Except.ok (hTest .gt x)
    | greaterOrEqual => exact congrArg Except.ok (hTest .gte x)
    | _ => cases hop
  rw [hMatches]
  cases op.holds .eq && x == .null <;> rfl

/-- Against a constant other than null, a native order test is false of an absent field. -/
theorem satisfies_comparison_of_absent {name : String} (hName : Text.dollar name = false)
    {op : BinaryOp} (hop : op.isInequality = true) {v : Value} (hv : v.isLiteral = true)
    (hAbsent : (env.fieldValue name).isAbsent = true) :
    satisfies env (comparison name op v).toDocument = .ok false := by
  have hLiteral := Value.one_lt_rank_of_isLiteral hv
  have hKind : ((env.fieldValue name).rank == v.rank) = false := by
    rw [Value.isAbsent_iff_rank] at hAbsent
    rw [beq_eq_false_iff_ne]
    omega
  rw [satisfies_comparison hName (BinaryOp.isComparison_of_isInequality hop) hv, BinaryOp.native,
    hop, hKind]
  rfl

/-- The native test of a field against a constant, on a document on which one of them is absent. -/
theorem satisfies_native_of_absent {op : BinaryOp} (hop : op.isInequality = true)
    {field constant : Operand} {name : String} {v x y : Value}
    (hField : field.fieldName? = some name) (hConstant : constant.constant? = some v)
    (hDenotes : constant.Denotes) (hx : evaluate env field.render = .ok x)
    (hy : evaluate env constant.render = .ok y) (hAbsent : x.isAbsent = true ∨ y.isAbsent = true) :
    satisfies env (comparison name op v).toDocument =
      .ok (v == .null && op.holds .eq && (env.document.path? name).getD .null == .null) ∧
    (v ≠ .null → field.admits x = false) := by
  obtain ⟨rfl, hName⟩ := Operand.eq_field_of_fieldName? hField
  obtain rfl := Operand.eq_constant_of_constant? hConstant
  by_cases hNull : v = .null
  · subst hNull
    exact ⟨satisfies_comparison_null hName hop, fun h => absurd rfl h⟩
  · have hLiteral := hDenotes v rfl hNull
    obtain rfl : v = y := Except.ok.inj ((evaluate_quoted hLiteral).symm.trans hy)
    obtain rfl : env.fieldValue name = x := Except.ok.inj ((evaluate_field hName).symm.trans hx)
    have hPresent : v.isAbsent = false := by
      cases v <;> first | rfl | cases hLiteral
    have hMissing : (env.fieldValue name).isAbsent = true := by
      simpa [hPresent] using hAbsent
    refine ⟨?_, fun _ => ?_⟩
    · rw [satisfies_comparison_of_absent hName hop hLiteral hMissing]
      simp [hNull]
    · simp [Operand.admits, Operand.isField, hMissing]

theorem satisfies_ofComparison_of_absent {op : BinaryOp} (hop : op.isInequality = true)
    {left right : Operand} (hl : left.Denotes) (hr : right.Denotes) {x y : Value}
    (hx : evaluate env left.render = .ok x) (hy : evaluate env right.render = .ok y)
    (hAbsent : x.isAbsent = true ∨ y.isAbsent = true) :
    satisfies env (ofComparison op left right).toDocument =
      .ok (op.acceptsAbsent env.document left right x y) := by
  unfold ofComparison ofComparison? BinaryOp.acceptsAbsent
  split
  · rename_i name v hField hConstant
    obtain ⟨hNative, hAdmits⟩ := satisfies_native_of_absent hop hField hConstant hr hx hy hAbsent
    rw [Option.getD_some, hNative, (Operand.nullTested?_constant hField hConstant).1]
    by_cases hNull : v = .null
    · simp [hNull]
    · simp [hNull, hAdmits hNull]
  · split
    · rename_i name v hField hConstant
      -- The constant comes first, so that the mirrored test is made.
      have hMirrored : op.mirrored.isInequality = true := op.isInequality_mirrored.trans hop
      have hEqual : op.mirrored.holds .eq = op.holds .eq := op.holds_mirrored .eq
      obtain ⟨hNative, hAdmits⟩ :=
        satisfies_native_of_absent hMirrored hField hConstant hl hy hx hAbsent.symm
      rw [Option.getD_some, hNative, hEqual, (Operand.nullTested?_constant hField hConstant).2]
      by_cases hNull : v = .null
      · simp [hNull]
      · simp [hNull, hAdmits hNull]
    · rename_i _ _ hForth _ _ hBack
      have hNone : left.nullTested? right = none := by
        unfold Operand.nullTested?
        split
        · rename_i hField hConstant
          exact absurd hConstant (hForth _ _ hField)
        · split
          · rename_i hField hConstant
            exact absurd hConstant (hBack _ _ hField)
          · rfl
      rw [Option.getD_none, satisfies_computed, hNone,
        truth_comparison_operands op (BinaryOp.isComparison_of_isInequality hop) hx hy, hop,
        Bool.and_comm (op.holds _)]
      rfl

end Filter

namespace Site

variable {site : Site}

/-- The predicates that test two operands for their order: the inequality itself, and the negation
of its complement. -/
inductive TestsOrder (site : Site) (op : BinaryOp) (l r : Expression) : Expression → Prop where
  | plain (hNone : site.grouping.operand? (.binary op l r) = none) :
    TestsOrder site op l r (.binary op l r)
  | negated {c : BinaryOp} (hc : c.complement? = some op)
    (hNegation : site.grouping.operand? (.unary .not (.binary c l r)) = none)
    (hNone : site.grouping.operand? (.binary op l r) = none) :
    TestsOrder site op l r (.unary .not (.binary c l r))

theorem TestsOrder.clauseOf {op : BinaryOp} (hop : op.isInequality = true) {l r p : Expression}
    (h : site.TestsOrder op l r p) {left right : Operand} (hLeft : site.compile l = .ok left)
    (hRight : site.compile r = .ok right) :
    site.clauseOf p = .ok (.ofComparison op left right) := by
  have hPlain : site.grouping.operand? (.binary op l r) = none →
      site.clauseOf (.binary op l r) = .ok (.ofComparison op left right) := by
    intro hNone
    rw [clauseOf_comparison (BinaryOp.isComparison_of_isInequality hop) hNone, hLeft, hRight]
    rfl
  cases h with
  | plain hNone => exact hPlain hNone
  | negated hc hNegation hNone =>
    have hComplement : Expression.complement? (.binary _ l r) = some (.binary op l r) :=
      congrArg (Option.map _) hc
    rw [clauseOf_not_of_complement? hComplement hNegation]
    exact hPlain hNone

theorem denotes_of_compile {e : Expression} {o : Operand} (h : site.compile e = .ok o) :
    o.Denotes := by
  intro v hConstant hv
  obtain rfl := Operand.eq_constant_of_constant? hConstant
  exact isLiteral_of_compile h hv

/-- On a document on which an operand of an order test is absent, the filter of the test, or of the
negation of its complement, accepts the document exactly if a field of the document is tested
against the constant null, is null or missing and the test holds of equal values, or if no such test
is made, no absent operand is a field and the test holds of the two values. -/
theorem satisfies_absent_operand_iff (site : Site) {op : BinaryOp} (hop : op.isInequality = true)
    {l r p : Expression} (hp : site.TestsOrder op l r p) {left right : Operand}
    (hLeft : site.compile l = .ok left) (hRight : site.compile r = .ok right) (env : Environment)
    {x y : Value} (hx : evaluate env left.render = .ok x) (hy : evaluate env right.render = .ok y)
    (hAbsent : x.isAbsent = true ∨ y.isAbsent = true) :
    ∃ body matched, site.filterDocument p = .ok body ∧ satisfies env body = .ok matched ∧
      (matched = true ↔ op.acceptsAbsent env.document left right x y = true) := by
  refine ⟨(Filter.ofComparison op left right).toDocument, _, ?_, ?_, Iff.rfl⟩
  · rw [filterDocument_eq_clauseOf, hp.clauseOf hop hLeft hRight]
    rfl
  · exact Filter.satisfies_ofComparison_of_absent hop (denotes_of_compile hLeft)
      (denotes_of_compile hRight) hx hy hAbsent

def successor : Expression := .binary .add (.property "Value") (.constant (.int32 1))

/-- A negated order test of the sum, which is compiled as the test that the sum is below. -/
def notAtLeastTen : Expression :=
  .unary .not (.binary .greaterOrEqual successor (.constant (.int32 10)))

theorem satisfies_notAtLeastTen_of_null :
    let site : Site := ⟨.rooted "Items" [], .empty, false⟩
    let env : Environment := ⟨[("Name", .string "empty"), ("Value", .null)], []⟩
    ∃ left right, site.compile successor = .ok left ∧
      site.compile (.constant (.int32 10)) = .ok right ∧
      evaluate env left.render = .ok .null ∧ evaluate env right.render = .ok (.int32 10) ∧
      ∃ body matched, site.filterDocument notAtLeastTen = .ok body ∧
        satisfies env body = .ok matched ∧
        (matched = true ↔
          BinaryOp.less.acceptsAbsent env.document left right .null (.int32 10) = true) := by
  intro site env
  refine ⟨_, _, rfl, rfl, rfl, rfl, ?_⟩
  exact satisfies_absent_operand_iff site rfl (.negated rfl rfl rfl) rfl rfl env rfl rfl (.inl rfl)

/-- Whether the filter of a predicate rejects every document on which one of two operands of the
predicate is absent. -/
def RejectsAbsent (site : Site) (p l r : Expression) : Prop :=
  ∀ env operand x, site.compile l = .ok operand ∨ site.compile r = .ok operand →
    evaluate env operand.render = .ok x → x.isAbsent = true →
    ∀ body, site.filterDocument p = .ok body → satisfies env body ≠ .ok true

theorem not_rejectsAbsent_notAtLeastTen :
    ¬ RejectsAbsent ⟨.rooted "Items" [], .empty, false⟩ notAtLeastTen successor
      (.constant (.int32 10)) := by
  intro h
  exact h ⟨[("Name", .string "empty"), ("Value", .null)], []⟩ _ .null (.inl rfl) rfl rfl _ rfl rfl

end Site

end RelPipe
