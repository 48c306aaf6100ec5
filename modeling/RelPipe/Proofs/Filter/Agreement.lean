import RelPipe.Proofs.Compile.Clause
import RelPipe.Proofs.Filter.Exact
import RelPipe.Proofs.Outcome
import RelPipe.Proofs.Statement.Part

/-!
The two forms of a predicate agree. Compiled to a filter, a predicate is tested natively as far as
it can be; compiled to an expression, it is computed. On documents whose fields are of the kinds
that the predicate compares them with, both forms accept the same.
-/

namespace RelPipe

set_option autoImplicit false

open Pipeline

namespace Filter

variable {env : Environment}

/-- A filter agrees with an expression if it does so both as a filter and as an expression. Clauses
of a group are used in either form. -/
structure Agrees (env : Environment) (f : Filter) (v : Value) : Prop where
  document : Agree (satisfies env f.toDocument) (truth env v)
  expression : Agree (truth env f.toExpression) (truth env v)

theorem Exact.agrees {f : Filter} {v : Value} (h : Exact env f v) : Agrees env f v where
  document := .of_eq h.document
  expression := .of_eq h.expression

theorem Agrees.negation {f : Filter} {v : Value} (h : Agrees env f v) :
    Agrees env (negation f) (.apply "$not" [v]) where
  document := by
    rw [satisfies_negation, truth_not]
    exact h.document.map not
  expression := by
    rw [truth_negation, truth_not]
    exact h.expression.map not

theorem satisfiesEach_all {fs : List Filter} {vs : List Value}
    (h : List.Forall₂ (Agrees env) fs vs) :
    Agree ((satisfiesEach env (toDocuments fs)).map fun bs => bs.all id) (evaluateAll env vs) := by
  induction h with
  | nil => exact .refl _
  | @cons f v fs vs hHead _ ih =>
    rw [satisfiesEach_cons, evaluateAll_cons]
    have hAgree := hHead.document
    cases hClause : satisfies env f.toDocument with
    | error e => intro a b ha; cases ha
    | ok b =>
      cases hValue : truth env v with
      | error e => intro a b _ hb; cases hb
      | ok b' =>
        obtain rfl := hAgree b b' hClause hValue
        cases hRest : satisfiesEach env (toDocuments fs) with
        | error e => intro a b ha; cases ha
        | ok bs =>
          rw [hRest] at ih
          cases b
          · exact .refl _
          · exact ih

theorem satisfiesEach_any {fs : List Filter} {vs : List Value}
    (h : List.Forall₂ (Agrees env) fs vs) :
    Agree ((satisfiesEach env (toDocuments fs)).map fun bs => bs.any id) (evaluateAny env vs) := by
  induction h with
  | nil => exact .refl _
  | @cons f v fs vs hHead _ ih =>
    rw [satisfiesEach_cons, evaluateAny_cons]
    have hAgree := hHead.document
    cases hClause : satisfies env f.toDocument with
    | error e => intro a b ha; cases ha
    | ok b =>
      cases hValue : truth env v with
      | error e => intro a b _ hb; cases hb
      | ok b' =>
        obtain rfl := hAgree b b' hClause hValue
        cases hRest : satisfiesEach env (toDocuments fs) with
        | error e => intro a b ha; cases ha
        | ok bs =>
          rw [hRest] at ih
          cases b
          · exact ih
          · exact .refl _

theorem forall₂_toExpressions {fs : List Filter} {vs : List Value}
    (h : List.Forall₂ (Agrees env) fs vs) :
    List.Forall₂ (fun e e' => Agree (truth env e) (truth env e')) (toExpressions fs) vs := by
  induction h with
  | nil => exact .nil
  | cons hHead _ ih => exact .cons hHead.expression ih

theorem agree_toExpressions {fs : List Filter} {vs : List Value} (op : GroupOp)
    (h : List.Forall₂ (Agrees env) fs vs) :
    Agree (truth env (.apply op.operator (toExpressions fs)))
      (truth env (.apply op.operator vs)) := by
  rw [truth_group, truth_group]
  cases op with
  | and => exact evaluateAll_agree (forall₂_toExpressions h)
  | or => exact evaluateAny_agree (forall₂_toExpressions h)

theorem Agrees.group {fs : List Filter} {vs : List Value} (op : GroupOp)
    (h : List.Forall₂ (Agrees env) fs vs) :
    Agrees env (group op fs) (.apply op.operator vs) where
  document := by
    rw [satisfies_group, truth_group]
    cases op with
    | and => exact satisfiesEach_all h
    | or => exact satisfiesEach_any h
  expression := by
    rw [toExpression]
    exact agree_toExpressions op h

theorem Agrees.ofGroup? {op : GroupOp} {fs : List Filter} {f : Filter} {vs : List Value}
    (hf : ofGroup? op fs = some f) (h : List.Forall₂ (Agrees env) fs vs) :
    Agrees env f (.apply op.operator vs) := by
  unfold Filter.ofGroup? at hf
  split at hf
  · cases hf
  · split at hf
    · cases hf
      refine ⟨?_, agree_toExpressions op h⟩
      rw [satisfies_computed]
      exact agree_toExpressions op h
    · cases hf
      exact .group op h

end Filter

/-- Null is nowhere in an expression. -/
def Expression.NullFree (e : Expression) : Prop := ∀ q : Expression, q.Part e → q ≠ .constant .null

theorem Expression.nullFree_iff {e : Expression} :
    e.NullFree ↔ e ≠ .constant .null ∧ ∀ c ∈ e.children, c.NullFree := by
  constructor
  · intro h
    exact ⟨h e (.self e), fun c hc q hq => h q (.child hc hq)⟩
  · rintro ⟨hSelf, hChildren⟩ q hq
    cases hq with
    | self => exact hSelf
    | child hc hq => exact hChildren _ hc q hq

theorem Expression.NullFree.below {e c : Expression} (h : e.NullFree) (hc : c ∈ e.children) :
    c.NullFree :=
  (nullFree_iff.mp h).2 c hc

namespace Site

/-- The operands of an order test are of one kind on a document, in either position. -/
def PairsKinds (site : Site) (d : Document) (l r : Expression) : Prop :=
  ∀ left right, site.compile l = .ok left → site.compile r = .ok right →
    left.OfOneKind d right ∧ right.OfOneKind d left

theorem notNull_of_compile {site : Site} {e : Expression} {o : Operand} (hNull : e.NullFree)
    (h : site.compile e = .ok o) : o.NotNull := by
  intro v hv
  obtain rfl := Operand.eq_constant_of_constant? hv
  obtain ⟨c, hPart, hValue⟩ := exists_constant_of_compile e h
  have hc : c ≠ .null := by
    rintro rfl
    exact hNull _ hPart rfl
  exact Constant.isLiteral_value hValue hc

theorem notNull_of_operands {site : Site} {es : List Expression} (hNull : ∀ e ∈ es, e.NullFree)
    {os : List Operand} (h : site.operands es = .ok os) : ∀ o ∈ os, o.NotNull := by
  induction es generalizing os with
  | nil =>
    cases h
    nofun
  | cons e es ih =>
    obtain ⟨hHead, hTail⟩ := List.forall_mem_cons.mp hNull
    obtain ⟨o, ho, h⟩ := exists_of_bind_eq_ok h
    obtain ⟨os, hos, rfl⟩ := exists_of_map_eq_ok h
    exact List.forall_mem_cons.mpr ⟨notNull_of_compile hHead ho, ih hTail hos⟩

section

variable {site : Site} (hNone : ∀ e, site.grouping.operand? e = none)

include hNone

variable {env : Environment}

theorem comparison_agrees {op : BinaryOp} (hop : op.isComparison = true) {l r : Expression}
    (hl : l.NullFree) (hr : r.NullFree)
    (hKinds : op.isInequality = true → site.PairsKinds env.document l r) {f : Filter} {o : Operand}
    (hf : site.clauseOf (.binary op l r) = .ok f) (ho : site.compile (.binary op l r) = .ok o) :
    f.Agrees env o.render := by
  rw [clauseOf_comparison hop (hNone _)] at hf
  rw [compile_comparison hop (hNone _)] at ho
  obtain ⟨left, hLeft, hf⟩ := exists_of_bind_eq_ok hf
  obtain ⟨right, hRight, rfl⟩ := exists_of_map_eq_ok hf
  rw [hLeft, hRight] at ho
  cases ho
  have hExact := Filter.Exact.ofComparison hop (notNull_of_compile hl hLeft)
    (notNull_of_compile hr hRight) fun h => hKinds h left right hLeft hRight
  exact hExact.agrees

theorem between_agrees {t l h : Expression} (hl : l.NullFree) (hh : h.NullFree)
    (hLow : site.PairsKinds env.document t l) (hHigh : site.PairsKinds env.document t h)
    {f : Filter} {o : Operand} (hf : site.clauseOf (.between t l h) = .ok f)
    (ho : site.compile (.between t l h) = .ok o) : f.Agrees env o.render := by
  rw [clauseOf_between (hNone _)] at hf
  rw [compile_between (hNone _)] at ho
  obtain ⟨test, hTest, hf⟩ := exists_of_bind_eq_ok hf
  obtain ⟨low, hFirst, hf⟩ := exists_of_bind_eq_ok hf
  obtain ⟨high, hSecond, rfl⟩ := exists_of_map_eq_ok hf
  rw [hTest, hFirst, hSecond] at ho
  cases ho
  have hExact := Filter.Exact.ofRange (notNull_of_compile hl hFirst)
    (notNull_of_compile hh hSecond) (hLow test low hTest hFirst).1
    (hHigh test high hTest hSecond).1
  exact hExact.agrees

theorem member_agrees {l : Expression} {cs : List Expression} (hcs : ∀ e ∈ cs, e.NullFree)
    {f : Filter} {o : Operand} (hf : site.clauseOf (.member l cs) = .ok f)
    (ho : site.compile (.member l cs) = .ok o) : f.Agrees env o.render := by
  rw [clauseOf_member (hNone _)] at hf
  rw [compile_member (hNone _)] at ho
  obtain ⟨left, hLeft, hf⟩ := exists_of_bind_eq_ok hf
  obtain ⟨candidates, hCandidates, rfl⟩ := exists_of_map_eq_ok hf
  rw [hLeft, hCandidates] at ho
  cases ho
  exact (Filter.Exact.ofMembership (notNull_of_operands hcs hCandidates)).agrees

omit hNone in
theorem computed_agrees {e : Expression} (h : site.filter? e = .ok none) {f : Filter} {o : Operand}
    (hf : site.clauseOf e = .ok f) (ho : site.compile e = .ok o) : f.Agrees env o.render := by
  rw [clauseOf_of_filter?_none h, value, ho] at hf
  cases hf
  exact (Filter.Exact.computed _).agrees

omit hNone in
theorem clauses_agree {es : List Expression}
    (h : ∀ e ∈ es, ∀ f o, site.clauseOf e = .ok f → site.compile e = .ok o → f.Agrees env o.render)
    {fs : List Filter} {vs : List Value} (hfs : site.filters es = .ok fs)
    (hvs : Call.values (site.compileEach es) = .ok vs) :
    List.Forall₂ (Filter.Agrees env) fs vs := by
  induction es generalizing fs vs with
  | nil =>
    cases hfs
    cases hvs
    exact .nil
  | cons e es ih =>
    obtain ⟨hHead, hTail⟩ := List.forall_mem_cons.mp h
    rw [filters_cons] at hfs
    rw [values_compileEach_cons] at hvs
    obtain ⟨f, hf, hfs⟩ := exists_of_bind_eq_ok hfs
    obtain ⟨fs, hFilters, rfl⟩ := exists_of_map_eq_ok hfs
    obtain ⟨v, hv, hvs⟩ := exists_of_bind_eq_ok hvs
    obtain ⟨vs, hValues, rfl⟩ := exists_of_map_eq_ok hvs
    obtain ⟨o, ho, rfl⟩ := exists_of_map_eq_ok hv
    exact .cons (hHead f o hf ho) (ih hTail hFilters hValues)

theorem group_agrees {op : GroupOp} {es : List Expression}
    (h : ∀ e ∈ es, ∀ f o, site.clauseOf e = .ok f → site.compile e = .ok o → f.Agrees env o.render)
    {f : Filter} {o : Operand} (hf : site.clauseOf (.group op es) = .ok f)
    (ho : site.compile (.group op es) = .ok o) : f.Agrees env o.render := by
  obtain ⟨f?, hf?, _⟩ := exists_of_bind_eq_ok hf
  cases f? with
  | none => exact computed_agrees hf? hf ho
  | some g =>
    rw [clauseOf_of_filter?_some hf?] at hf
    cases hf
    rw [filter?_group (hNone _)] at hf?
    obtain ⟨fs, hfs, hGroup⟩ := exists_of_map_eq_ok hf?
    rw [compile_group (hNone _)] at ho
    obtain ⟨vs, hvs, rfl⟩ := exists_of_map_eq_ok ho
    exact .ofGroup? hGroup (clauses_agree h hfs hvs)

theorem not_agrees {e : Expression} (hc : e.complement? = none)
    (h : ∀ f o, site.clauseOf e = .ok f → site.compile e = .ok o → f.Agrees env o.render)
    {f : Filter} {o : Operand} (hf : site.clauseOf (.unary .not e) = .ok f)
    (ho : site.compile (.unary .not e) = .ok o) : f.Agrees env o.render := by
  rw [clauseOf, filter?_not hc (hNone _)] at hf
  rw [compile_not hc (hNone _)] at ho
  obtain ⟨operand, hOperand, rfl⟩ := exists_of_map_eq_ok ho
  obtain ⟨g?, hOutcome, hClause⟩ := exists_of_bind_eq_ok hf
  obtain ⟨f?, hf?, hOutcome⟩ := exists_of_bind_eq_ok hOutcome
  obtain ⟨g, hNegated, rfl⟩ := exists_of_map_eq_ok hOutcome
  cases hClause
  cases f? with
  | none =>
    rw [negated, value, hOperand] at hNegated
    obtain rfl := Except.ok.inj hNegated
    exact (Filter.Exact.computed _).agrees
  | some f' =>
    obtain rfl := Except.ok.inj hNegated
    exact (h f' operand (clauseOf_of_filter?_some hf?) hOperand).negation

theorem outside_agrees {t l h : Expression} (ht : t.NullFree) (hl : l.NullFree) (hh : h.NullFree)
    (hLow : site.PairsKinds env.document t l) (hHigh : site.PairsKinds env.document t h)
    {f : Filter} {o : Operand}
    (hf : site.clauseOf (.group .or [.binary .less t l, .binary .greater t h]) = .ok f)
    (ho : site.compile (.group .or [.binary .less t l, .binary .greater t h]) = .ok o) :
    f.Agrees env o.render := by
  refine group_agrees hNone ?_ hf ho
  intro e he f o hf ho
  rw [List.mem_pair] at he
  obtain rfl | rfl := he
  · exact comparison_agrees hNone rfl ht hl (fun _ => hLow) hf ho
  · exact comparison_agrees hNone rfl ht hh (fun _ => hHigh) hf ho

/-- By recursion on the predicate. A negation is followed to its complement, which is no part of
it, but then its operands are compared directly. -/
theorem clause_agrees (e : Expression) (hNull : e.NullFree)
    (hKinds : e.EveryOrder (site.PairsKinds env.document)) {f : Filter} {o : Operand}
    (hf : site.clauseOf e = .ok f) (ho : site.compile e = .ok o) : f.Agrees env o.render := by
  induction e using Expression.part_induction generalizing f o with
  | step e ih =>
    cases e with
    | binary op l r =>
      by_cases hop : op.isComparison = true
      · exact comparison_agrees hNone hop (hNull.below (.head _)) (hNull.below (.tail _ (.head _)))
          (fun h => hKinds.self (.inequality h l r)) hf ho
      · refine computed_agrees ?_ hf ho
        rw [filter?, hNone]
        exact if_neg hop
    | between t l h =>
      exact between_agrees hNone (hNull.below (.tail _ (.head _)))
        (hNull.below (.tail _ (.tail _ (.head _)))) (hKinds.self (.low t l h))
        (hKinds.self (.high t l h)) hf ho
    | member l cs =>
      exact member_agrees hNone (fun e he => hNull.below (.tail _ he)) hf ho
    | group op es =>
      refine group_agrees hNone ?_ hf ho
      intro e he f o hf ho
      exact ih e he e (.self e) (hNull.below he) (hKinds.below he) hf ho
    | unary op e =>
      have hMember : e ∈ (Expression.unary op e).children := .head _
      have hNullOperand := hNull.below hMember
      have hKindsOperand := hKinds.below hMember
      by_cases hop : op = .not
      · subst hop
        cases hc : e.complement? with
        | none =>
          refine not_agrees hNone hc ?_ hf ho
          intro f o hf ho
          exact ih e hMember e (.self e) hNullOperand hKindsOperand hf ho
        | some c =>
          rw [clauseOf_not_of_complement? hc (hNone _)] at hf
          rw [compile_not_of_complement? hc (hNone _)] at ho
          cases e with
          | unary op e =>
            cases op <;> cases hc
            exact ih _ hMember c (.child (.head _) (.self c)) (hNullOperand.below (.head _))
              (hKindsOperand.below (.head _)) hf ho
          | binary op l r =>
            obtain ⟨op', hComplement, rfl⟩ := Option.map_eq_some_iff.mp hc
            obtain ⟨hop, hop'⟩ := BinaryOp.isInequality_of_complement? hComplement
            exact comparison_agrees hNone (BinaryOp.isComparison_of_isInequality hop')
              (hNullOperand.below (.head _)) (hNullOperand.below (.tail _ (.head _)))
              (fun _ => hKindsOperand.self (.inequality hop l r)) hf ho
          | between t l h =>
            cases hc
            exact outside_agrees hNone (hNullOperand.below (.head _))
              (hNullOperand.below (.tail _ (.head _)))
              (hNullOperand.below (.tail _ (.tail _ (.head _))))
              (hKindsOperand.self (.low t l h))
              (hKindsOperand.self (.high t l h)) hf ho
          | _ => cases hc
      · exact computed_agrees (filter?_unary hop (hNone _)) hf ho
    | _ =>
      refine computed_agrees ?_ hf ho
      rw [filter?.eq_def, hNone]

end

/-- At a site without grouping, on any document and under any variables: if null is nowhere in a
predicate and every field that it tests for its order against a constant is absent or of the kind
of the constant, then its filter accepts the document exactly if its computed value is truthy,
whenever both come to an end. -/
theorem satisfies_filterDocument_iff (scope : Scope) (caseSensitive : Bool) (p : Expression)
    (env : Environment) {body : Document} {o : Operand} {matched : Bool} {v : Value}
    (hBody : filterDocument ⟨scope, .empty, caseSensitive⟩ p = .ok body)
    (hValue : compile ⟨scope, .empty, caseSensitive⟩ p = .ok o) (hNull : p.NullFree)
    (hKinds : p.EveryOrder (PairsKinds ⟨scope, .empty, caseSensitive⟩ env.document))
    (hMatched : satisfies env body = .ok matched) (hv : evaluate env o.render = .ok v) :
    matched = true ↔ v.isTruthy = true := by
  rw [filterDocument_eq_clauseOf] at hBody
  obtain ⟨f, hf, rfl⟩ := exists_of_map_eq_ok hBody
  have hAgrees := clause_agrees Grouping.operand?_empty p hNull hKinds hf hValue
  rw [hAgrees.document matched v.isTruthy hMatched (truth_of_evaluate hv)]

def mixedPredicate : Expression :=
  .group .and
    [.unary .not (.binary .less (.constant (.int32 3)) (.property "a")),
     .binary .notEqual (.property "b") (.property "c")]

def mixedValue (test : Value) : Value :=
  .apply "$and"
    [.apply "$and" [test, Value.present (.string "$a")],
     .apply "$ne" [.string "$b", .string "$c"]]

theorem satisfies_filterDocument_mixed :
    let env : Environment := ⟨[("a", .int32 2), ("b", .string "x")], []⟩
    let native := mixedValue (.apply "$lte" [.string "$a", .int32 3])
    let computed := mixedValue (.apply "$gte" [.int32 3, .string "$a"])
    filterDocument ⟨.rooted "t" [], .empty, false⟩ mixedPredicate = .ok [("$expr", native)] ∧
      compile ⟨.rooted "t" [], .empty, false⟩ mixedPredicate = .ok (.computed computed) ∧
      mixedPredicate.NullFree ∧
      mixedPredicate.EveryOrder (PairsKinds ⟨.rooted "t" [], .empty, false⟩ env.document) ∧
      satisfies env [("$expr", native)] = .ok true ∧
      evaluate env computed = .ok (.boolean true) ∧
      (true = true ↔ (Value.boolean true).isTruthy = true) := by
  intro env native computed
  have hBody : filterDocument ⟨.rooted "t" [], .empty, false⟩ mixedPredicate =
      .ok [("$expr", native)] := rfl
  have hValue : compile ⟨.rooted "t" [], .empty, false⟩ mixedPredicate =
      .ok (.computed computed) := rfl
  have hMatched : satisfies env [("$expr", native)] = .ok true := rfl
  have hEvaluated : evaluate env computed = .ok (.boolean true) := rfl
  have hNull : mixedPredicate.NullFree := by
    refine Expression.nullFree_iff.mpr ⟨nofun, ?_⟩
    rintro c (_ | ⟨_, _ | ⟨_, ⟨⟩⟩⟩)
    · refine Expression.nullFree_iff.mpr ⟨nofun, ?_⟩
      rintro c (_ | ⟨_, ⟨⟩⟩)
      refine Expression.nullFree_iff.mpr ⟨nofun, ?_⟩
      rintro c (_ | ⟨_, _ | ⟨_, ⟨⟩⟩⟩) <;> exact Expression.nullFree_iff.mpr ⟨nofun, nofun⟩
    · refine Expression.nullFree_iff.mpr ⟨nofun, ?_⟩
      rintro c (_ | ⟨_, _ | ⟨_, ⟨⟩⟩⟩) <;> exact Expression.nullFree_iff.mpr ⟨nofun, nofun⟩
  have hKinds : mixedPredicate.EveryOrder (PairsKinds ⟨.rooted "t" [], .empty, false⟩ env.document) := by
    refine Expression.everyOrder_iff.mpr ⟨nofun, ?_⟩
    rintro c (_ | ⟨_, _ | ⟨_, ⟨⟩⟩⟩)
    · refine Expression.everyOrder_iff.mpr ⟨nofun, ?_⟩
      rintro c (_ | ⟨_, ⟨⟩⟩)
      refine Expression.everyOrder_iff.mpr ⟨?_, ?_⟩
      · rintro l r ⟨⟩ left right ⟨⟩ ⟨⟩
        refine ⟨nofun, ?_⟩
        rintro name v x ⟨⟩ ⟨⟩ ⟨⟩
        exact .inr rfl
      · rintro c (_ | ⟨_, _ | ⟨_, ⟨⟩⟩⟩) <;> exact Expression.everyOrder_iff.mpr ⟨nofun, nofun⟩
    · refine Expression.everyOrder_iff.mpr ⟨nofun, ?_⟩
      rintro c (_ | ⟨_, _ | ⟨_, ⟨⟩⟩⟩) <;> exact Expression.everyOrder_iff.mpr ⟨nofun, nofun⟩
  exact ⟨hBody, hValue, hNull, hKinds, hMatched, hEvaluated,
    satisfies_filterDocument_iff _ _ _ env hBody hValue hNull hKinds hMatched hEvaluated⟩

end Site

end RelPipe
