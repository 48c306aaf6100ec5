import RelPipe.Proofs.Compile.Clause
import RelPipe.Proofs.Filter.Exact

/-!
Filters and the logic of absent values. A comparison with null or a missing value is neither true
nor false, and a document is kept only if the predicate is true of it. Filters decide with two
truth values; on equality with constants, order tests, ranges and lists, with negations only where
they have a complement, they keep the same documents.
-/

namespace RelPipe

set_option autoImplicit false

open Pipeline

/-- The truth values of predicates on values that may be absent. -/
inductive Verdict where
  | holds | fails | unknown
deriving DecidableEq

namespace Verdict

def ofBool : Bool → Verdict
  | true => holds
  | false => fails

def not : Verdict → Verdict
  | holds => fails
  | fails => holds
  | unknown => unknown

def and : Verdict → Verdict → Verdict
  | holds, v => v
  | fails, _ => fails
  | unknown, fails => fails
  | unknown, _ => unknown

def or : Verdict → Verdict → Verdict
  | fails, v => v
  | holds, _ => holds
  | unknown, holds => holds
  | unknown, _ => unknown

def all : List Verdict → Verdict
  | [] => holds
  | v :: vs => v.and (all vs)

def any : List Verdict → Verdict
  | [] => fails
  | v :: vs => v.or (any vs)

def group : GroupOp → List Verdict → Verdict
  | .and => all
  | .or => any

theorem not_not (v : Verdict) : v.not.not = v := by
  cases v <;> rfl

theorem not_and (v w : Verdict) : (v.and w).not = v.not.or w.not := by
  cases v <;> cases w <;> rfl

theorem or_fails (v : Verdict) : v.or fails = v := by
  cases v <;> rfl

theorem beq_holds_and (v w : Verdict) : (v.and w == holds) = (v == holds && w == holds) := by
  cases v <;> cases w <;> rfl

theorem beq_holds_or (v w : Verdict) : (v.or w == holds) = (v == holds || w == holds) := by
  cases v <;> cases w <;> rfl

theorem beq_holds_all (vs : List Verdict) : (all vs == holds) = (vs.map (· == holds)).all id := by
  induction vs with
  | nil => rfl
  | cons v vs ih => rw [all, beq_holds_and, ih, List.map_cons, List.all_cons, id]

theorem beq_holds_any (vs : List Verdict) : (any vs == holds) = (vs.map (· == holds)).any id := by
  induction vs with
  | nil => rfl
  | cons v vs ih => rw [any, beq_holds_or, ih, List.map_cons, List.any_cons, id]

theorem beq_holds_group (op : GroupOp) (vs : List Verdict) :
    (group op vs == holds) = op.holds (vs.map (· == holds)) := by
  cases op with
  | and => exact beq_holds_all vs
  | or => exact beq_holds_any vs

def compare (op : BinaryOp) (x y : Value) : Verdict :=
  if x.isAbsent || y.isAbsent then unknown else ofBool (op.holds (x.compare y))

theorem beq_holds_compare (op : BinaryOp) (x y : Value) :
    (compare op x y == holds) = (!x.isAbsent && !y.isAbsent && op.holds (x.compare y)) := by
  unfold compare
  cases x.isAbsent <;> cases y.isAbsent <;> cases op.holds (x.compare y) <;> rfl

theorem not_compare {op c : BinaryOp} (hc : op.complement? = some c) (x y : Value) :
    (compare op x y).not = compare c x y := by
  have hHolds : c.holds (x.compare y) = !op.holds (x.compare y) := by
    generalize x.compare y = o
    cases op <;> cases hc <;> cases o <;> rfl
  rw [compare, compare, hHolds]
  cases x.isAbsent || y.isAbsent with
  | true => rfl
  | false => cases op.holds (x.compare y) <;> rfl

theorem beq_holds_equal {x y : Value} (h : 1 < x.rank ∨ 1 < y.rank) :
    (compare .equal x y == holds) = BinaryOp.equal.holds (x.compare y) := by
  rw [beq_holds_compare]
  cases hEqual : BinaryOp.equal.holds (x.compare y) with
  | false => rw [Bool.and_false]
  | true =>
    have hOrder : x.compare y = .eq := by simpa [BinaryOp.holds] using hEqual
    have hRank : x.rank = y.rank := by
      rcases Nat.lt_trichotomy x.rank y.rank with hLess | hSame | hMore
      · rw [Value.compare_of_rank_lt hLess] at hOrder
        cases hOrder
      · exact hSame
      · rw [Value.compare_of_rank_gt hMore] at hOrder
        cases hOrder
    have hx : x.isAbsent = false := by
      rw [← Bool.not_eq_true, Value.isAbsent_iff_rank]
      omega
    have hy : y.isAbsent = false := by
      rw [← Bool.not_eq_true, Value.isAbsent_iff_rank]
      omega
    rw [hx, hy]
    rfl

end Verdict

def Operand.read (env : Environment) : Operand → Value
  | field path => env.reference path
  | constant v => v
  | computed _ => .undefined

namespace Site

def reading (site : Site) (env : Environment) (e : Expression) : Value :=
  match site.compile e with
  | .ok o => o.read env
  | .error _ => .undefined

mutual

/-- The verdict on a predicate, in which null and missing fields count as null. -/
def verdict (site : Site) (env : Environment) : Expression → Verdict
  | .binary op l r => .compare op (site.reading env l) (site.reading env r)
  | .between t l h =>
    (Verdict.compare .greaterOrEqual (site.reading env t) (site.reading env l)).and
      (.compare .lessOrEqual (site.reading env t) (site.reading env h))
  | .member l cs =>
    .any (cs.map fun c => .compare .equal (site.reading env l) (site.reading env c))
  | .unary .not e => (verdict site env e).not
  | .group op es => .group op (verdicts site env es)
  | _ => .unknown
termination_by structural e => e

def verdicts (site : Site) (env : Environment) : List Expression → List Verdict
  | [] => []
  | e :: es => verdict site env e :: verdicts site env es
termination_by structural es => es

end

/-- The verdict on a negation is the verdict on its complement: outside of a range is below it or
above it. -/
theorem verdict_not_of_complement? {e c : Expression} (hc : e.complement? = some c) (site : Site)
    (env : Environment) : site.verdict env (.unary .not e) = site.verdict env c := by
  rw [verdict]
  cases e with
  | unary op e =>
    cases op <;> cases hc
    rw [verdict, Verdict.not_not]
  | binary op l r =>
    obtain ⟨op', hop, rfl⟩ := Option.map_eq_some_iff.mp hc
    rw [verdict, verdict, Verdict.not_compare hop]
  | between t l h =>
    cases hc
    simp only [verdict, verdicts, Verdict.group, Verdict.any]
    rw [Verdict.not_and, Verdict.or_fails,
      Verdict.not_compare (show BinaryOp.greaterOrEqual.complement? = some .less from rfl),
      Verdict.not_compare (show BinaryOp.lessOrEqual.complement? = some .greater from rfl)]
  | _ => cases hc

def IsField (site : Site) (e : Expression) : Prop := ∃ path, site.compile e = .ok (.field path)

def IsConstant (site : Site) (e : Expression) : Prop :=
  ∃ v, site.compile e = .ok (.constant v) ∧ v ≠ .null

/-- The predicates that keep the logic of absent values, among those that are not read from a
grouping. -/
inductive KeepsNulls (site : Site) : Expression → Prop where
  | equal {l r : Expression} (hNone : site.grouping.operand? (.binary .equal l r) = none)
    (h : site.IsField l ∧ site.IsConstant r ∨ site.IsConstant l ∧ site.IsField r) :
    KeepsNulls site (.binary .equal l r)
  | inequality {op : BinaryOp} {l r : Expression}
    (hNone : site.grouping.operand? (.binary op l r) = none) (hop : op.isInequality = true)
    (hl : site.IsField l ∨ site.IsConstant l) (hr : site.IsField r ∨ site.IsConstant r) :
    KeepsNulls site (.binary op l r)
  | between {t l h : Expression} (hNone : site.grouping.operand? (.between t l h) = none)
    (ht : site.IsField t ∨ site.IsConstant t) (hl : site.IsField l ∨ site.IsConstant l)
    (hh : site.IsField h ∨ site.IsConstant h) : KeepsNulls site (.between t l h)
  | member {l : Expression} {cs : List Expression}
    (hNone : site.grouping.operand? (.member l cs) = none) (hl : site.IsField l)
    (hcs : ∀ c ∈ cs, site.IsConstant c) : KeepsNulls site (.member l cs)
  | group {op : GroupOp} {es : List Expression}
    (hNone : site.grouping.operand? (.group op es) = none) (hes : ∀ e ∈ es, KeepsNulls site e) :
    KeepsNulls site (.group op es)
  | not {e c : Expression} (hNone : site.grouping.operand? (.unary .not e) = none)
    (hc : e.complement? = some c) (h : KeepsNulls site c) : KeepsNulls site (.unary .not e)

/-- Present values that are tested for their order are of one kind. -/
def RanksMatch (site : Site) (env : Environment) (l r : Expression) : Prop :=
  (site.reading env l).isAbsent = false → (site.reading env r).isAbsent = false →
    (site.reading env l).rank = (site.reading env r).rank

end Site

theorem Expression.EveryOrder.complement {R : Expression → Expression → Prop} {e c : Expression}
    (h : e.EveryOrder R) (hc : e.complement? = some c) : c.EveryOrder R := by
  cases e with
  | unary op e =>
    cases op <;> cases hc
    exact h.below (.head _)
  | binary op l r =>
    obtain ⟨op', hComplement, rfl⟩ := Option.map_eq_some_iff.mp hc
    refine everyOrder_iff.mpr ⟨?_, fun e he => h.below he⟩
    rintro _ _ ⟨⟩
    exact h.self (.inequality (BinaryOp.isInequality_of_complement? hComplement).1 l r)
  | between t l u =>
    cases hc
    refine everyOrder_iff.mpr ⟨nofun, ?_⟩
    rintro e (_ | ⟨_, _ | ⟨_, ⟨⟩⟩⟩)
    · refine everyOrder_iff.mpr ⟨?_, ?_⟩
      · rintro _ _ ⟨⟩
        exact h.self (.low t l u)
      · rintro e (_ | ⟨_, _ | ⟨_, ⟨⟩⟩⟩)
        · exact h.below (.head _)
        · exact h.below (.tail _ (.head _))
    · refine everyOrder_iff.mpr ⟨?_, ?_⟩
      · rintro _ _ ⟨⟩
        exact h.self (.high t l u)
      · rintro e (_ | ⟨_, _ | ⟨_, ⟨⟩⟩⟩)
        · exact h.below (.head _)
        · exact h.below (.tail _ (.tail _ (.head _)))
  | _ => cases hc

namespace Operand

def isLeaf : Operand → Bool
  | field _ => true
  | constant v => v.isLiteral
  | computed _ => false

variable {env : Environment} {o : Operand}

theorem evaluate_of_isLeaf (h : o.isLeaf = true) : evaluate env o.render = .ok (o.read env) := by
  cases o with
  | field path => rfl
  | constant v => exact evaluate_quoted h
  | computed v => cases h

theorem notNull_of_isLeaf (h : o.isLeaf = true) : o.NotNull := by
  intro v hv
  obtain rfl := eq_constant_of_constant? hv
  exact h

theorem admits_read (h : o.isLeaf = true) : o.admits (o.read env) = !(o.read env).isAbsent := by
  cases o with
  | field path => rfl
  | constant v => cases v <;> first | rfl | cases h
  | computed v => cases h

theorem ofOneKind_of_rank {l r : Operand} (hr : r.isLeaf = true)
    (h : (l.read env).isAbsent = false → (r.read env).isAbsent = false →
      (l.read env).rank = (r.read env).rank) : l.OfOneKind env.document r := by
  intro name v x hField hConstant hPath
  obtain ⟨rfl, hName⟩ := eq_field_of_fieldName? hField
  obtain rfl := eq_constant_of_constant? hConstant
  have hRead : (field ("$" ++ name)).read env = x := by
    rw [read, reference_field hName, Environment.fieldValue, hPath]
    rfl
  rw [hRead] at h
  cases hAbsent : x.isAbsent with
  | true => exact .inl rfl
  | false =>
    have hPresent : v.isAbsent = false := by
      cases v <;> first | rfl | cases hr
    exact .inr (h hAbsent hPresent)

theorem truth_inequality {op : BinaryOp} (hop : op.isInequality = true) {l r : Operand}
    (hl : l.isLeaf = true) (hr : r.isLeaf = true) :
    truth env (comparison op l r) =
      .ok (Verdict.compare op (l.read env) (r.read env) == .holds) := by
  rw [truth_comparison_operands op (BinaryOp.isComparison_of_isInequality hop)
    (evaluate_of_isLeaf hl) (evaluate_of_isLeaf hr), admits_read hl, admits_read hr, hop,
    Verdict.beq_holds_compare, Bool.and_comm]
  rfl

theorem truth_equality {l r : Operand} (hl : l.isLeaf = true) (hr : r.isLeaf = true)
    (h : l.isConstant = true ∨ r.isConstant = true) :
    truth env (comparison .equal l r) =
      .ok (Verdict.compare .equal (l.read env) (r.read env) == .holds) := by
  have hRank : ∀ {o : Operand}, o.isLeaf = true → o.isConstant = true →
      1 < (o.read env).rank := by
    intro o hLeaf hConstant
    cases o with
    | constant v => exact Value.one_lt_rank_of_isLiteral hLeaf
    | _ => cases hConstant
  rw [truth_comparison_operands .equal rfl (evaluate_of_isLeaf hl) (evaluate_of_isLeaf hr),
    Verdict.beq_holds_equal (h.imp (hRank hl) (hRank hr))]
  exact congrArg Except.ok (Bool.and_true _)

end Operand

namespace Filter

variable {env : Environment}

/-- A filter decides a document, both as a filter and written as an expression. -/
structure Decides (env : Environment) (f : Filter) (b : Bool) : Prop where
  document : satisfies env f.toDocument = .ok b
  expression : truth env f.toExpression = .ok b

theorem Exact.decides {f : Filter} {v : Value} {b : Bool} (h : Exact env f v)
    (hv : truth env v = .ok b) : Decides env f b where
  document := h.document.trans hv
  expression := h.expression.trans hv

theorem satisfiesEach_ok {fs : List Filter} {bs : List Bool}
    (h : List.Forall₂ (Decides env) fs bs) :
    satisfiesEach env (toDocuments fs) = .ok bs := by
  induction h with
  | nil => rfl
  | cons hHead _ ih =>
    rw [satisfiesEach_cons, hHead.document, ih]
    rfl

theorem truth_toExpressions {fs : List Filter} {bs : List Bool}
    (h : List.Forall₂ (Decides env) fs bs) :
    List.Forall₂ (fun e b => truth env e = .ok b) (toExpressions fs) bs := by
  induction h with
  | nil => exact .nil
  | cons hHead _ ih => exact .cons hHead.expression ih

theorem Decides.ofGroup? {op : GroupOp} {fs : List Filter} {f : Filter} {bs : List Bool}
    (hf : ofGroup? op fs = some f) (h : List.Forall₂ (Decides env) fs bs) :
    Decides env f (op.holds bs) := by
  have hTruth : truth env (.apply op.operator (toExpressions fs)) = .ok (op.holds bs) :=
    truth_group_ok op (truth_toExpressions h)
  unfold Filter.ofGroup? at hf
  split at hf
  · cases hf
  · split at hf
    · cases hf
      exact (Exact.computed _).decides hTruth
    · cases hf
      refine ⟨?_, ?_⟩
      · rw [satisfies_group, satisfiesEach_ok h]
        rfl
      · rw [toExpression]
        exact hTruth

end Filter

namespace Site

variable {site : Site} {env : Environment}

theorem isLiteral_of_compile {e : Expression} {v : Value} (h : site.compile e = .ok (.constant v))
    (hv : v ≠ .null) : v.isLiteral = true := by
  obtain ⟨c, _, hValue⟩ := exists_constant_of_compile e h
  refine Constant.isLiteral_value hValue ?_
  rintro rfl
  cases hValue
  exact hv rfl

theorem IsConstant.exists_operand {e : Expression} (h : site.IsConstant e) :
    ∃ o, site.compile e = .ok o ∧ o.isLeaf = true ∧ o.isConstant = true := by
  obtain ⟨v, hCompiled, hv⟩ := h
  exact ⟨_, hCompiled, isLiteral_of_compile hCompiled hv, rfl⟩

theorem exists_operand {e : Expression} (h : site.IsField e ∨ site.IsConstant e) :
    ∃ o, site.compile e = .ok o ∧ o.isLeaf = true := by
  obtain ⟨path, hCompiled⟩ | hConstant := h
  · exact ⟨_, hCompiled, rfl⟩
  · obtain ⟨o, hCompiled, hLeaf, _⟩ := hConstant.exists_operand
    exact ⟨o, hCompiled, hLeaf⟩

theorem reading_of_compile {e : Expression} {o : Operand} (h : site.compile e = .ok o) :
    site.reading env e = o.read env := by
  rw [reading, h]

/-- A predicate has a clause, and the clause keeps the documents that the predicate is true of. -/
def Decided (site : Site) (env : Environment) (e : Expression) : Prop :=
  ∃ f, site.clauseOf e = .ok f ∧ f.Decides env (site.verdict env e == .holds)

theorem equal_decided {l r : Expression}
    (hNone : site.grouping.operand? (.binary .equal l r) = none)
    (h : site.IsField l ∧ site.IsConstant r ∨ site.IsConstant l ∧ site.IsField r) :
    site.Decided env (.binary .equal l r) := by
  have hOperands : ∃ left right, site.compile l = .ok left ∧ site.compile r = .ok right ∧
      left.isLeaf = true ∧ right.isLeaf = true ∧
      (left.isConstant = true ∨ right.isConstant = true) := by
    obtain ⟨⟨path, hField⟩, hConstant⟩ | ⟨hConstant, path, hField⟩ := h
    · obtain ⟨o, ho, hLeaf, hIs⟩ := hConstant.exists_operand
      exact ⟨_, o, hField, ho, rfl, hLeaf, .inr hIs⟩
    · obtain ⟨o, ho, hLeaf, hIs⟩ := hConstant.exists_operand
      exact ⟨o, _, ho, hField, hLeaf, rfl, .inl hIs⟩
  obtain ⟨left, right, hLeft, hRight, hl, hr, hEither⟩ := hOperands
  refine ⟨.ofComparison .equal left right, ?_, ?_⟩
  · rw [clauseOf_comparison rfl hNone, hLeft, hRight]
    rfl
  · rw [verdict, reading_of_compile hLeft, reading_of_compile hRight]
    have hExact : Filter.Exact env (.ofComparison .equal left right) (comparison .equal left right) :=
      .ofComparison rfl (Operand.notNull_of_isLeaf hl) (Operand.notNull_of_isLeaf hr) nofun
    exact hExact.decides (Operand.truth_equality hl hr hEither)

theorem inequality_decided {op : BinaryOp} (hop : op.isInequality = true) {l r : Expression}
    (hNone : site.grouping.operand? (.binary op l r) = none)
    (hl : site.IsField l ∨ site.IsConstant l) (hr : site.IsField r ∨ site.IsConstant r)
    (hRanks : site.RanksMatch env l r) : site.Decided env (.binary op l r) := by
  have hComparison := BinaryOp.isComparison_of_isInequality hop
  obtain ⟨left, hLeft, hLeafLeft⟩ := exists_operand hl
  obtain ⟨right, hRight, hLeafRight⟩ := exists_operand hr
  rw [RanksMatch, reading_of_compile hLeft, reading_of_compile hRight] at hRanks
  refine ⟨.ofComparison op left right, ?_, ?_⟩
  · rw [clauseOf_comparison hComparison hNone, hLeft, hRight]
    rfl
  · rw [verdict, reading_of_compile hLeft, reading_of_compile hRight]
    have hExact : Filter.Exact env (.ofComparison op left right) (comparison op left right) :=
      .ofComparison hComparison (Operand.notNull_of_isLeaf hLeafLeft)
        (Operand.notNull_of_isLeaf hLeafRight) fun _ =>
          ⟨Operand.ofOneKind_of_rank hLeafRight hRanks,
            Operand.ofOneKind_of_rank hLeafLeft fun hx hy => (hRanks hy hx).symm⟩
    exact hExact.decides (Operand.truth_inequality hop hLeafLeft hLeafRight)

theorem between_decided {t l h : Expression}
    (hNone : site.grouping.operand? (.between t l h) = none)
    (ht : site.IsField t ∨ site.IsConstant t) (hl : site.IsField l ∨ site.IsConstant l)
    (hh : site.IsField h ∨ site.IsConstant h) (hLow : site.RanksMatch env t l)
    (hHigh : site.RanksMatch env t h) : site.Decided env (.between t l h) := by
  obtain ⟨test, hTest, hLeafTest⟩ := exists_operand ht
  obtain ⟨low, hFirst, hLeafLow⟩ := exists_operand hl
  obtain ⟨high, hSecond, hLeafHigh⟩ := exists_operand hh
  rw [RanksMatch, reading_of_compile hTest, reading_of_compile hFirst] at hLow
  rw [RanksMatch, reading_of_compile hTest, reading_of_compile hSecond] at hHigh
  refine ⟨.ofRange test low high, ?_, ?_⟩
  · rw [clauseOf_between hNone, hTest, hFirst, hSecond]
    rfl
  · rw [verdict, reading_of_compile hTest, reading_of_compile hFirst, reading_of_compile hSecond,
      Verdict.beq_holds_and]
    have hExact : Filter.Exact env (.ofRange test low high) (rangeComparison test low high) :=
      .ofRange (Operand.notNull_of_isLeaf hLeafLow) (Operand.notNull_of_isLeaf hLeafHigh)
        (Operand.ofOneKind_of_rank hLeafLow hLow) (Operand.ofOneKind_of_rank hLeafHigh hHigh)
    have hBelow : truth env (comparison .greaterOrEqual test low) = _ :=
      Operand.truth_inequality rfl hLeafTest hLeafLow
    have hAbove : truth env (comparison .lessOrEqual test high) = _ :=
      Operand.truth_inequality rfl hLeafTest hLeafHigh
    refine hExact.decides ?_
    rw [rangeComparison, truth_and, evaluateAll_ok (.cons hBelow (.cons hAbove .nil))]
    simp

theorem exists_constants {cs : List Expression} (h : ∀ c ∈ cs, site.IsConstant c) :
    ∃ values, site.operands cs = .ok (values.map Operand.constant) ∧
      cs.map (site.reading env) = values ∧ ∀ v ∈ values, v.isLiteral = true := by
  induction cs with
  | nil => exact ⟨[], rfl, rfl, nofun⟩
  | cons c cs ih =>
    obtain ⟨⟨v, hCompiled, hv⟩, hTail⟩ := List.forall_mem_cons.mp h
    obtain ⟨values, hOperands, hReadings, hLiterals⟩ := ih hTail
    refine ⟨v :: values, ?_, ?_, ?_⟩
    · rw [operands, hCompiled, hOperands]
      rfl
    · rw [List.map_cons, hReadings, reading_of_compile hCompiled]
      rfl
    · exact List.forall_mem_cons.mpr ⟨isLiteral_of_compile hCompiled hv, hLiterals⟩

theorem beq_holds_member (x : Value) {values : List Value}
    (h : ∀ v ∈ values, v.isLiteral = true) :
    (Verdict.any (values.map fun v => .compare .equal x v) == .holds) =
      values.any fun v => x.equivalent v := by
  rw [Verdict.beq_holds_any, List.map_map, List.any_map, Bool.eq_iff_iff, List.any_eq_true,
    List.any_eq_true]
  refine exists_congr fun v => and_congr_right fun hv => ?_
  have hRank := Value.one_lt_rank_of_isLiteral (h v hv)
  change (Verdict.compare .equal x v == .holds) = true ↔ _
  rw [Verdict.beq_holds_equal (.inr hRank)]
  rfl

theorem member_decided {l : Expression} {cs : List Expression}
    (hNone : site.grouping.operand? (.member l cs) = none) (hl : site.IsField l)
    (hcs : ∀ c ∈ cs, site.IsConstant c) : site.Decided env (.member l cs) := by
  obtain ⟨path, hField⟩ := hl
  obtain ⟨values, hOperands, hReadings, hLiterals⟩ :
      ∃ values, site.operands cs = .ok (values.map Operand.constant) ∧
        cs.map (site.reading env) = values ∧ ∀ v ∈ values, v.isLiteral = true :=
    exists_constants hcs
  refine ⟨.ofMembership (.field path) (values.map Operand.constant), ?_, ?_⟩
  · rw [clauseOf_member hNone, hField, hOperands]
    rfl
  · have hVerdict : site.verdict env (.member l cs) =
        .any (values.map fun v => .compare .equal (env.reference path) v) := by
      rw [verdict, reading_of_compile hField, ← hReadings, List.map_map]
      rfl
    have hNotNull : ∀ o ∈ values.map Operand.constant, o.NotNull := by
      intro o ho
      obtain ⟨v, hv, rfl⟩ := List.mem_map.mp ho
      exact Operand.notNull_of_isLeaf (hLiterals v hv)
    have hRender : (values.map Operand.constant).map Operand.render = values.map Value.quoted := by
      rw [List.map_map]
      rfl
    have hTruth : truth env (.apply "$in" [.string path, .array (values.map Value.quoted)]) = _ :=
      truth_member rfl hLiterals
    rw [hVerdict, beq_holds_member _ hLiterals]
    refine (Filter.Exact.ofMembership hNotNull).decides ?_
    rw [hRender]
    exact hTruth

theorem exists_filters {holds : Expression → Bool} {es : List Expression}
    (h : ∀ e ∈ es, ∃ f, site.clauseOf e = .ok f ∧ f.Decides env (holds e)) :
    ∃ fs, site.filters es = .ok fs ∧ List.Forall₂ (Filter.Decides env) fs (es.map holds) := by
  induction es with
  | nil => exact ⟨[], rfl, .nil⟩
  | cons e es ih =>
    obtain ⟨⟨f, hf, hDecides⟩, hTail⟩ := List.forall_mem_cons.mp h
    obtain ⟨fs, hfs, hRest⟩ := ih hTail
    refine ⟨f :: fs, ?_, .cons hDecides hRest⟩
    rw [filters_cons, hf, hfs]
    rfl

/-- A group has a clause if its operands have, and the clause decides what theirs do together. -/
theorem exists_clauseOf_group {op : GroupOp} {holds : Expression → Bool} {es : List Expression}
    (hNone : site.grouping.operand? (.group op es) = none)
    (h : ∀ e ∈ es, ∃ f, site.clauseOf e = .ok f ∧ f.Decides env (holds e)) :
    ∃ f, site.clauseOf (.group op es) = .ok f ∧ f.Decides env (op.holds (es.map holds)) := by
  obtain ⟨fs, hfs, hDecides⟩ := exists_filters h
  have hFilter : site.filter? (.group op es) = .ok (Filter.ofGroup? op fs) := by
    rw [filter?_group hNone, hfs]
    rfl
  cases hGroup : Filter.ofGroup? op fs with
  | some f =>
    exact ⟨f, clauseOf_of_filter?_some (hFilter.trans (congrArg _ hGroup)),
      .ofGroup? hGroup hDecides⟩
  | none =>
    cases es with
    | nil =>
      refine ⟨.computed (.apply op.operator []), ?_, ?_⟩
      · rw [clauseOf_of_filter?_none (hFilter.trans (congrArg _ hGroup)), value,
          compile_group hNone]
        rfl
      · exact (Filter.Exact.computed _).decides (truth_group_ok op .nil)
    | cons e es =>
      rw [List.map_cons] at hDecides
      cases hDecides
      unfold Filter.ofGroup? at hGroup
      split at hGroup
      · contradiction
      · split at hGroup <;> cases hGroup

theorem beq_holds_verdicts (es : List Expression) :
    (site.verdicts env es).map (· == .holds) = es.map (site.verdict env · == .holds) := by
  induction es with
  | nil => rfl
  | cons e es ih => rw [verdicts, List.map_cons, List.map_cons, ih]

theorem group_decided {op : GroupOp} {es : List Expression}
    (hNone : site.grouping.operand? (.group op es) = none) (h : ∀ e ∈ es, site.Decided env e) :
    site.Decided env (.group op es) := by
  rw [Decided, verdict, Verdict.beq_holds_group, beq_holds_verdicts]
  exact exists_clauseOf_group hNone h

theorem decided_of_keepsNulls {e : Expression} (h : site.KeepsNulls e) :
    e.EveryOrder (site.RanksMatch env) → site.Decided env e := by
  induction h with
  | equal hNone h =>
    intro _
    exact equal_decided hNone h
  | inequality hNone hop hl hr =>
    intro hRanks
    exact inequality_decided hop hNone hl hr (hRanks.self (.inequality hop _ _))
  | between hNone ht hl hh =>
    intro hRanks
    exact between_decided hNone ht hl hh (hRanks.self (.low _ _ _)) (hRanks.self (.high _ _ _))
  | member hNone hl hcs =>
    intro _
    exact member_decided hNone hl hcs
  | group hNone _ ih =>
    intro hRanks
    exact group_decided hNone fun e he => ih e he (hRanks.below he)
  | not hNone hc _ ih =>
    intro hRanks
    obtain ⟨f, hf, hDecides⟩ := ih ((hRanks.below (.head _)).complement hc)
    refine ⟨f, (clauseOf_not_of_complement? hc hNone).trans hf, ?_⟩
    rw [verdict_not_of_complement? hc]
    exact hDecides

/-- A predicate that keeps the logic of absent values compiles to a filter, and on every document
in which the present values of each order test are of one kind, the filter accepts the document
exactly if the predicate is true of it: neither false nor unknown. -/
theorem satisfies_filterDocument_iff_holds (site : Site) (p : Expression) (env : Environment)
    (hp : site.KeepsNulls p) (hRanks : p.EveryOrder (site.RanksMatch env)) :
    ∃ body matched, site.filterDocument p = .ok body ∧ satisfies env body = .ok matched ∧
      (matched = true ↔ site.verdict env p = .holds) := by
  obtain ⟨f, hf, hDecides⟩ := decided_of_keepsNulls hp hRanks
  refine ⟨f.toDocument, _, ?_, hDecides.document, beq_iff_eq⟩
  rw [filterDocument_eq_clauseOf, hf]
  rfl

/-- A value outside of a range, or below another. The first is unknown where the value is absent,
and the second makes the whole group computed. -/
def outsideOrBelow : Expression :=
  .group .or
    [.unary .not (.between (.property "a") (.constant (.int32 1)) (.constant (.int32 3))),
     .binary .less (.property "b") (.property "c")]

theorem satisfies_outsideOrBelow :
    let site : Site := ⟨.rooted "t" [], .empty, false⟩
    let env : Environment := ⟨[("a", .null), ("b", .int32 2), ("c", .int64 5)], []⟩
    site.KeepsNulls outsideOrBelow ∧ outsideOrBelow.EveryOrder (site.RanksMatch env) ∧
      site.verdict env outsideOrBelow = .holds ∧
      ∃ body matched, site.filterDocument outsideOrBelow = .ok body ∧
        satisfies env body = .ok matched ∧
        (matched = true ↔ site.verdict env outsideOrBelow = .holds) := by
  intro site env
  have hField : ∀ name, site.IsField (.property name) := fun name => ⟨_, rfl⟩
  have hConstant : ∀ n, site.IsConstant (.constant (.int32 n)) := fun n => ⟨_, rfl, nofun⟩
  have hKeeps : site.KeepsNulls outsideOrBelow := by
    refine .group rfl ?_
    rintro e (_ | ⟨_, _ | ⟨_, ⟨⟩⟩⟩)
    · refine .not rfl rfl (.group rfl ?_)
      rintro e (_ | ⟨_, _ | ⟨_, ⟨⟩⟩⟩)
      · exact .inequality rfl rfl (.inl (hField _)) (.inr (hConstant _))
      · exact .inequality rfl rfl (.inl (hField _)) (.inr (hConstant _))
    · exact .inequality rfl rfl (.inl (hField _)) (.inl (hField _))
  have hRanks : outsideOrBelow.EveryOrder (site.RanksMatch env) := by
    refine Expression.everyOrder_iff.mpr ⟨nofun, ?_⟩
    rintro e (_ | ⟨_, _ | ⟨_, ⟨⟩⟩⟩)
    · refine Expression.everyOrder_iff.mpr ⟨nofun, ?_⟩
      rintro e (_ | ⟨_, ⟨⟩⟩)
      refine Expression.everyOrder_iff.mpr ⟨?_, ?_⟩
      · rintro l r (_ | _ | _) hPresent
        · cases hPresent
        · cases hPresent
      · rintro e (_ | ⟨_, _ | ⟨_, _ | ⟨_, ⟨⟩⟩⟩⟩) <;>
          exact Expression.everyOrder_iff.mpr ⟨nofun, nofun⟩
    · refine Expression.everyOrder_iff.mpr ⟨?_, ?_⟩
      · rintro l r ⟨⟩ _ _
        decide
      · rintro e (_ | ⟨_, _ | ⟨_, ⟨⟩⟩⟩) <;> exact Expression.everyOrder_iff.mpr ⟨nofun, nofun⟩
  exact ⟨hKeeps, hRanks, rfl, satisfies_filterDocument_iff_holds site outsideOrBelow env hKeeps hRanks⟩

end Site

end RelPipe
