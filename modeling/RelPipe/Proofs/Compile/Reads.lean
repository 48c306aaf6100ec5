import RelPipe.Proofs.Compile.Calls

/-!
What an expression reads where it is compiled: the columns, properties and subqueries that stand in
it outside of entries of the grouping, and of these entries the fields that hold them. The compiled
operand refers to exactly that, and so does the compiled filter.
-/

namespace RelPipe

set_option autoImplicit false

namespace Expression

/-- The complement of a predicate is built from the operands of the predicate by comparisons and
groups. -/
theorem complement_of_children {P : Expression → Prop}
    (hBinary : ∀ op l r, P l → P r → P (.binary op l r))
    (hGroup : ∀ op es, (∀ e ∈ es, P e) → P (.group op es)) {e c : Expression}
    (hc : e.complement? = some c) (h : ∀ d ∈ e.children, P d) : P c := by
  cases e with
  | unary op e =>
    cases op <;> cases hc
    exact h c (.head _)
  | binary op l r =>
    obtain ⟨op', _, rfl⟩ := Option.map_eq_some_iff.mp hc
    exact hBinary _ l r (h l (.head _)) (h r (.tail _ (.head _)))
  | between t l u =>
    cases hc
    have hTest := h t (.head _)
    have hBelow := hBinary .less t l hTest (h l (.tail _ (.head _)))
    have hAbove := hBinary .greater t u hTest (h u (.tail _ (.tail _ (.head _))))
    exact hGroup .or _ (by simpa using ⟨hBelow, hAbove⟩)
  | _ => cases hc

/-- The expressions that an expression is compiled from. A negation is compiled from the complement
of its operand where there is one, and a random number from nothing. -/
def inputs : Expression → List Expression
  | .unary .not e =>
    match e.complement? with
    | some c => [c]
    | none => [e]
  | .call f es => if f.standard? = some .rnd then [] else es
  | .aggregate _ => []
  | e => e.children

theorem inputs_not_of_complement? {e c : Expression} (h : e.complement? = some c) :
    (Expression.unary .not e).inputs = [c] := by
  change (match e.complement? with | some c => [c] | none => [e]) = [c]
  rw [h]

theorem inputs_not {e : Expression} (h : e.complement? = none) :
    (Expression.unary .not e).inputs = [e] := by
  change (match e.complement? with | some c => [c] | none => [e]) = [e]
  rw [h]

theorem inputs_unary {op : UnaryOp} (hop : op ≠ .not) (e : Expression) :
    (Expression.unary op e).inputs = [e] := by
  cases op with
  | not => exact absurd rfl hop
  | _ => rfl

/-- Induction on an expression with the expressions that it is compiled from. -/
theorem input_induction {P : Expression → Prop}
    (step : ∀ e : Expression, (∀ c ∈ e.inputs, P c) → P e) (e : Expression) : P e := by
  have hBinary : ∀ op l r, P l → P r → P (.binary op l r) := by
    intro op l r hl hr
    exact step _ (by simpa [inputs, children] using ⟨hl, hr⟩)
  have hGroup : ∀ op es, (∀ e ∈ es, P e) → P (.group op es) := fun op es h => step _ h
  induction e using part_induction with
  | step e ih =>
    have hChildren : ∀ c ∈ e.children, P c := fun c hc => ih c hc c (.self c)
    refine step e ?_
    cases e with
    | unary op e =>
      by_cases hNot : op = .not
      · subst hNot
        cases hc : e.complement? with
        | none =>
          rw [inputs_not hc]
          exact hChildren
        | some c =>
          -- The complement is no part of the negation, but it is made of parts of it.
          rw [inputs_not_of_complement? hc, List.forall_mem_singleton]
          refine complement_of_children hBinary hGroup hc fun d hd => ?_
          exact ih e (.head _) d (.child hd (.self d))
      · rw [inputs_unary hNot]
        exact hChildren
    | call f es =>
      rw [inputs]
      split
      · exact List.forall_mem_nil _
      · exact hChildren
    | aggregate a => exact List.forall_mem_nil _
    | _ => exact hChildren

end Expression

theorem Text.dollar_dollar_append (name : String) : dollar ("$" ++ name) = true := by
  simp [dollar]

theorem Scope.dollar_columnPath (scope : Scope) (ref : ColumnRef) :
    Text.dollar (scope.columnPath ref) = true := by
  unfold columnPath AliasTable.fieldPath
  split
  · simp [Text.dollar]
  · dsimp only
    split
    · split <;> simp [Text.dollar]
    · simp [Text.dollar]

namespace Site

variable {site : Site} {r : String}

def SearchesEmptySuffix (site : Site) (f : Function) (es : List Expression) : Prop :=
  f.standard? = some .endsWith ∧ Call.pattern (site.compileEach es) 1 = .ok []

/-- What an expression reads by itself. -/
inductive ReadsItself (site : Site) : Expression → String → Prop where
  | column (ref : ColumnRef) : ReadsItself site (.column ref) (site.scope.columnPath ref)
  | property (name : String) : ReadsItself site (.property name) (Scope.propertyPath name)
  | subquery {a : Aggregate} {field : String} (hStatement : a.statement.isSome = true)
    (hField : site.scope.subqueryField? a.signature = some field) :
    ReadsItself site (.aggregate a) ("$" ++ field)
  | suffix {f : Function} {es : List Expression} (h : site.SearchesEmptySuffix f es) :
    ReadsItself site (.call f es) "$"

/-- What an expression reads, with all that it is compiled from. An entry of the grouping is read
instead of what it was computed from. -/
inductive Reads (site : Site) : Expression → String → Prop where
  | entry {e : Expression} {o : Operand} {r : String} (h : site.grouping.operand? e = some o)
    (hr : r ∈ o.freeReferences) : Reads site e r
  | itself {e : Expression} {r : String} (hNone : site.grouping.operand? e = none)
    (h : site.ReadsItself e r) : Reads site e r
  | input {e c : Expression} {r : String} (hNone : site.grouping.operand? e = none)
    (hc : c ∈ e.inputs) (h : Reads site c r) : Reads site e r

section

variable {e : Expression}

theorem reads_entry {o : Operand} (h : site.grouping.operand? e = some o) :
    site.Reads e r ↔ r ∈ o.freeReferences := by
  constructor
  · intro hReads
    cases hReads with
    | entry h' hr =>
      obtain rfl := Option.some.inj (h.symm.trans h')
      exact hr
    | itself hNone =>
      rw [h] at hNone
      cases hNone
    | input hNone =>
      rw [h] at hNone
      cases hNone
  · exact .entry h

theorem reads_iff (hNone : site.grouping.operand? e = none) :
    site.Reads e r ↔ site.ReadsItself e r ∨ ∃ c ∈ e.inputs, site.Reads c r := by
  constructor
  · intro hReads
    cases hReads with
    | entry h =>
      rw [h] at hNone
      cases hNone
    | itself _ h => exact .inl h
    | input _ hc h => exact .inr ⟨_, hc, h⟩
  · rintro (h | ⟨c, hc, h⟩)
    · exact .itself hNone h
    · exact .input hNone hc h

/-- An expression that reads nothing by itself reads what it is compiled from. -/
theorem reads_iff_inputs (hNone : site.grouping.operand? e = none)
    (hItself : ∀ r, ¬ site.ReadsItself e r) :
    site.Reads e r ↔ ∃ c ∈ e.inputs, site.Reads c r := by
  rw [reads_iff hNone, or_iff_right (hItself r)]

end

theorem compile_of_operand? {e : Expression} {o : Operand}
    (h : site.grouping.operand? e = some o) : site.compile e = .ok o := by
  rw [compile.eq_def, h]

theorem plain_compile (e : Expression) : Yields (site.compile e) Operand.Plain := by
  intro o ho hConstant
  cases o with
  | constant v =>
    obtain ⟨c, _, hc⟩ := exists_constant_of_compile e ho
    exact Constant.freeReferences_value hc
  | _ => cases hConstant

/-- The compiled forms of an expression refer to what it reads and to nothing else. -/
structure Refers (site : Site) (e : Expression) : Prop where
  operand : Yields (site.compile e) fun o => ∀ r, r ∈ o.freeReferences ↔ site.Reads e r
  uniform : Yields (site.clauseOf e) Filter.Uniform
  clause : Yields (site.clauseOf e) fun f => ∀ r, r ∈ f.freeReferences ↔ site.Reads e r

theorem Refers.value {e : Expression} (h : site.Refers e) :
    Yields (site.value e) fun v => ∀ r, r ∈ v.freeReferences ↔ site.Reads e r :=
  h.operand.map fun _ ho => ho

/-- A predicate without a filter of its own is read as it is computed. -/
theorem Refers.of_filter?_none {e : Expression} (hFilter : site.filter? e = .ok none)
    (h : Yields (site.compile e) fun o => ∀ r, r ∈ o.freeReferences ↔ site.Reads e r) :
    site.Refers e := by
  have hClause := clauseOf_of_filter?_none hFilter
  have hValue : Yields (site.value e) fun v => ∀ r, r ∈ v.freeReferences ↔ site.Reads e r :=
    h.map fun _ ho => ho
  refine ⟨h, ?_, ?_⟩
  · rw [hClause]
    exact hValue.map fun v _ => .computed v
  · rw [hClause]
    exact hValue.map fun _ hv => hv

theorem refers_of_operand? {e : Expression} {o : Operand}
    (h : site.grouping.operand? e = some o) : site.Refers e := by
  refine .of_filter?_none ?_ ?_
  · rw [filter?.eq_def, h]
  · rw [compile_of_operand? h]
    exact .ok fun r => (reads_entry h).symm

section

variable {e : Expression}

theorem mem_freeReferences_field {path : String} (h : Text.dollar path = true) :
    r ∈ (Operand.field path).freeReferences ↔ r = path := by
  rw [Operand.freeReferences, Operand.render, Value.mem_freeReferences_string, and_iff_right h]

theorem refers_column {ref : ColumnRef} (hNone : site.grouping.operand? (.column ref) = none) :
    site.Refers (.column ref) := by
  refine .of_filter?_none ?_ ?_
  · rw [filter?.eq_def, hNone]
  · rw [compile, hNone]
    refine .ok fun r => ?_
    rw [mem_freeReferences_field (site.scope.dollar_columnPath ref), reads_iff hNone]
    constructor
    · rintro rfl
      exact .inl (.column ref)
    · rintro (h | ⟨c, hc, _⟩)
      · cases h
        rfl
      · cases hc

theorem refers_property {name : String}
    (hNone : site.grouping.operand? (.property name) = none) : site.Refers (.property name) := by
  refine .of_filter?_none ?_ ?_
  · rw [filter?.eq_def, hNone]
  · rw [compile, hNone]
    refine .ok fun r => ?_
    rw [Scope.propertyPath, mem_freeReferences_field (Text.dollar_dollar_append _),
      reads_iff hNone]
    constructor
    · rintro rfl
      exact .inl (.property name)
    · rintro (h | ⟨c, hc, _⟩)
      · cases h
        rfl
      · cases hc

theorem refers_constant {c : Constant} (hNone : site.grouping.operand? (.constant c) = none) :
    site.Refers (.constant c) := by
  refine .of_filter?_none ?_ ?_
  · rw [filter?.eq_def, hNone]
  · rw [compile, hNone]
    refine Yields.from_map fun v hv r => ?_
    rw [Constant.freeReferences_value hv, reads_iff hNone]
    constructor
    · exact fun hr => absurd hr List.not_mem_nil
    · rintro (h | ⟨c, hc, _⟩)
      · cases h
      · cases hc

theorem refers_aggregate {a : Aggregate}
    (hNone : site.grouping.operand? (.aggregate a) = none) : site.Refers (.aggregate a) := by
  refine .of_filter?_none ?_ ?_
  · rw [filter?.eq_def, hNone]
  · rw [compile, hNone]
    dsimp only
    unfold Site.aggregate
    cases hStatement : a.statement with
    | none => exact .error
    | some s =>
      cases hField : site.scope.subqueryField? a.signature with
      | none => exact .error
      | some field =>
        refine .ok fun r => ?_
        rw [mem_freeReferences_field (Text.dollar_dollar_append _), reads_iff hNone]
        constructor
        · rintro rfl
          exact .inl (.subquery (by rw [hStatement]; rfl) hField)
        · rintro (h | ⟨c, hc, _⟩)
          · cases h with
            | subquery _ hField' => rw [Option.some.inj (hField.symm.trans hField')]
          · cases hc

theorem Refers.complement {c : Expression} (hc : e.complement? = some c)
    (hNone : site.grouping.operand? (.unary .not e) = none) (h : site.Refers c) :
    site.Refers (.unary .not e) := by
  have hReads : ∀ r, site.Reads c r ↔ site.Reads (.unary .not e) r := by
    intro r
    rw [reads_iff_inputs hNone (fun r h => by cases h), Expression.inputs_not_of_complement? hc]
    simp
  refine ⟨?_, ?_, ?_⟩
  · rw [compile_not_of_complement? hc hNone]
    exact h.operand.mono fun o ho r => (ho r).trans (hReads r)
  · rw [clauseOf_not_of_complement? hc hNone]
    exact h.uniform
  · rw [clauseOf_not_of_complement? hc hNone]
    exact h.clause.mono fun f hf r => (hf r).trans (hReads r)

theorem Refers.not (hc : e.complement? = none)
    (hNone : site.grouping.operand? (.unary .not e) = none) (h : site.Refers e) :
    site.Refers (.unary .not e) := by
  have hReads : ∀ r, site.Reads e r ↔ site.Reads (.unary .not e) r := by
    intro r
    rw [reads_iff_inputs hNone (fun r h => by cases h), Expression.inputs_not hc]
    simp
  have hClause : Yields (site.clauseOf (.unary .not e)) fun f =>
      f.Uniform ∧ ∀ r, r ∈ f.freeReferences ↔ site.Reads (.unary .not e) r := by
    rw [clauseOf, filter?_not hc hNone]
    refine Yields.from_bind fun g? hOutcome => ?_
    obtain ⟨f?, hf?, hOutcome⟩ := exists_of_bind_eq_ok hOutcome
    obtain ⟨g, hNegated, rfl⟩ := exists_of_map_eq_ok hOutcome
    refine .ok ?_
    cases f? with
    | none =>
      obtain ⟨v, hv, rfl⟩ := exists_of_map_eq_ok hNegated
      refine ⟨.computed _, fun r => ?_⟩
      rw [← hReads, ← h.value v hv]
      simp [Filter.freeReferences, Filter.toExpression]
    | some f =>
      obtain rfl := Except.ok.inj hNegated
      have hf := clauseOf_of_filter?_some hf?
      refine ⟨(h.uniform f hf).negation, fun r => ?_⟩
      rw [Filter.mem_freeReferences_negation, h.clause f hf, hReads]
  refine ⟨?_, hClause.mono fun _ hf => hf.1, hClause.mono fun _ hf => hf.2⟩
  rw [compile_not hc hNone]
  refine h.operand.map fun o ho r => ?_
  rw [UnaryOp.mem_freeReferences_apply, ho, hReads]

theorem Refers.unary {op : UnaryOp} (hop : op ≠ .not)
    (hNone : site.grouping.operand? (.unary op e) = none) (h : site.Refers e) :
    site.Refers (.unary op e) := by
  refine .of_filter?_none (filter?_unary hop hNone) ?_
  rw [compile_unary hop hNone]
  refine h.operand.map fun o ho r => ?_
  rw [UnaryOp.mem_freeReferences_apply, ho, reads_iff_inputs hNone (fun r h => by cases h),
    Expression.inputs_unary hop]
  simp

theorem Refers.binary {op : BinaryOp} {l r : Expression}
    (hNone : site.grouping.operand? (.binary op l r) = none) (hl : site.Refers l)
    (hr : site.Refers r) : site.Refers (.binary op l r) := by
  have hReads : ∀ s, site.Reads l s ∨ site.Reads r s ↔ site.Reads (.binary op l r) s := by
    intro s
    rw [reads_iff_inputs hNone fun r h => by cases h]
    simp [Expression.inputs, Expression.children]
  have hCompile : Yields (site.compile (.binary op l r)) fun o =>
      ∀ s, s ∈ o.freeReferences ↔ site.Reads (.binary op l r) s := by
    rw [compile_binary, resolve, hNone]
    by_cases hLike : op = .like
    · subst hLike
      have hArguments : ∀ a ∈ [Argument.mk l (site.compile l), ⟨r, site.compile r⟩],
          a.RefersTo fun a => site.Reads a.expression := by
        simpa using ⟨hl.value, hr.value⟩
      refine (Call.collects_likeCall site.caseSensitive hArguments (plain_compile r)).map
        fun v hv s => ?_
      change s ∈ v.freeReferences ↔ _
      rw [← hReads]
      simpa [Call.Reads] using hv s
    · dsimp only
      rw [binary_of_ne_like hLike]
      refine hl.operand.bind fun left hLeft => hr.operand.map fun right hRight s => ?_
      rw [BinaryOp.mem_freeReferences_apply, hLeft, hRight, hReads]
  cases hop : op.isComparison with
  | true =>
    have hClause := clauseOf_comparison hop hNone
    refine ⟨hCompile, ?_, ?_⟩
    · rw [hClause]
      exact (plain_compile l).bind fun left hLeft => (plain_compile r).map fun right hRight =>
        .ofComparison op hLeft hRight
    · rw [hClause]
      refine hl.operand.bind fun left hLeft => hr.operand.map fun right hRight s => ?_
      rw [Filter.mem_freeReferences_ofComparison, hLeft, hRight, hReads]
  | false =>
    refine .of_filter?_none ?_ hCompile
    rw [filter?, hNone]
    simp [hop]

theorem Refers.between {t l h : Expression}
    (hNone : site.grouping.operand? (.between t l h) = none) (ht : site.Refers t)
    (hl : site.Refers l) (hh : site.Refers h) : site.Refers (.between t l h) := by
  have hReads : ∀ r, site.Reads t r ∨ site.Reads l r ∨ site.Reads h r ↔
      site.Reads (.between t l h) r := by
    intro r
    rw [reads_iff_inputs hNone fun r h => by cases h]
    simp [Expression.inputs, Expression.children]
  have hClause := clauseOf_between hNone
  refine ⟨?_, ?_, ?_⟩
  · rw [compile_between hNone]
    refine ht.operand.bind fun test hTest => hl.operand.bind fun low hLow =>
      hh.operand.map fun high hHigh r => ?_
    rw [← hReads, ← hTest, ← hLow, ← hHigh]
    exact mem_freeReferences_rangeComparison
  · rw [hClause]
    exact ht.operand.bind fun test _ => (plain_compile l).bind fun low hLow =>
      (plain_compile h).map fun high hHigh => .ofRange hLow hHigh
  · rw [hClause]
    refine ht.operand.bind fun test hTest => hl.operand.bind fun low hLow =>
      hh.operand.map fun high hHigh r => ?_
    rw [Filter.mem_freeReferences_ofRange, hTest, hLow, hHigh, hReads]

theorem operands_yields {es : List Expression} (h : ∀ e ∈ es, site.Refers e) :
    Yields (site.operands es) fun os => (∀ o ∈ os, o.Plain) ∧
      ∀ r, (∃ o ∈ os, r ∈ o.freeReferences) ↔ ∃ e ∈ es, site.Reads e r := by
  induction es with
  | nil => exact .ok ⟨List.forall_mem_nil _, by simp⟩
  | cons e es ih =>
    obtain ⟨hFirst, hRest⟩ := List.forall_mem_cons.mp h
    refine Yields.from_bind fun o ho => (ih hRest).bind fun os hos => .ok ⟨?_, fun r => ?_⟩
    · exact List.forall_mem_cons.mpr ⟨plain_compile e o ho, hos.1⟩
    · rw [List.exists_mem_cons_iff, List.exists_mem_cons_iff, hFirst.operand o ho, hos.2]

theorem Refers.member {l : Expression} {cs : List Expression}
    (hNone : site.grouping.operand? (.member l cs) = none) (hl : site.Refers l)
    (hcs : ∀ c ∈ cs, site.Refers c) : site.Refers (.member l cs) := by
  have hReads : ∀ r, (site.Reads l r ∨ ∃ c ∈ cs, site.Reads c r) ↔
      site.Reads (.member l cs) r := by
    intro r
    rw [reads_iff_inputs hNone fun r h => by cases h]
    simp [Expression.inputs, Expression.children]
  have hClause := clauseOf_member hNone
  refine ⟨?_, ?_, ?_⟩
  · rw [compile_member hNone]
    refine hl.operand.bind fun left hLeft => (operands_yields hcs).map fun os hos r => ?_
    rw [← hReads, ← hLeft, ← hos.2]
    simp [Operand.freeReferences, Operand.render]
  · rw [hClause]
    exact hl.operand.bind fun left _ => (operands_yields hcs).map fun os hos =>
      .ofMembership hos.1
  · rw [hClause]
    refine hl.operand.bind fun left hLeft => (operands_yields hcs).map fun os hos r => ?_
    rw [Filter.mem_freeReferences_ofMembership, hLeft, hos.2, hReads]

theorem filters_yields {es : List Expression} (h : ∀ e ∈ es, site.Refers e) :
    Yields (site.filters es) fun fs => (∀ f ∈ fs, f.Uniform) ∧
      ∀ r, (∃ f ∈ fs, r ∈ f.freeReferences) ↔ ∃ e ∈ es, site.Reads e r := by
  induction es with
  | nil => exact .ok ⟨List.forall_mem_nil _, by simp⟩
  | cons e es ih =>
    obtain ⟨hFirst, hRest⟩ := List.forall_mem_cons.mp h
    rw [filters_cons]
    refine Yields.from_bind fun f hf => (ih hRest).map fun fs hfs => ⟨?_, fun r => ?_⟩
    · exact List.forall_mem_cons.mpr ⟨hFirst.uniform f hf, hfs.1⟩
    · rw [List.exists_mem_cons_iff, List.exists_mem_cons_iff, hFirst.clause f hf, hfs.2]

theorem Refers.group {op : GroupOp} {es : List Expression}
    (hNone : site.grouping.operand? (.group op es) = none) (h : ∀ e ∈ es, site.Refers e) :
    site.Refers (.group op es) := by
  have hReads : ∀ r, (∃ e ∈ es, site.Reads e r) ↔ site.Reads (.group op es) r := by
    intro r
    rw [reads_iff_inputs hNone fun r h => by cases h]
    rfl
  have hCompile : Yields (site.compile (.group op es)) fun o =>
      ∀ r, r ∈ o.freeReferences ↔ site.Reads (.group op es) r := by
    rw [compile_group hNone, values_compileEach]
    refine Yields.from_map fun vs hvs r => ?_
    obtain ⟨os, hos, rfl⟩ := exists_of_map_eq_ok hvs
    rw [← hReads, ← (operands_yields h os hos).2, Operand.freeReferences, Operand.render,
      Value.mem_freeReferences_apply op.operator_plain]
    simp [Operand.freeReferences]
  have hClause : ∀ f, site.clauseOf (.group op es) = .ok f →
      f.Uniform ∧ ∀ r, r ∈ f.freeReferences ↔ site.Reads (.group op es) r := by
    intro f hf
    obtain ⟨f?, hf?, _⟩ := exists_of_bind_eq_ok hf
    cases f? with
    | none =>
      have hComputed := Refers.of_filter?_none hf? hCompile
      exact ⟨hComputed.uniform f hf, hComputed.clause f hf⟩
    | some g =>
      rw [clauseOf_of_filter?_some hf?] at hf
      cases hf
      rw [filter?_group hNone] at hf?
      obtain ⟨fs, hfs, hGroup⟩ := exists_of_map_eq_ok hf?
      have hClauses := filters_yields h fs hfs
      refine ⟨.ofGroup? hClauses.1 hGroup, fun r => ?_⟩
      rw [Filter.mem_freeReferences_ofGroup? hGroup, hClauses.2, hReads]
  exact ⟨hCompile, fun f hf => (hClause f hf).1, fun f hf => (hClause f hf).2⟩

theorem mem_compileEach {es : List Expression} {a : Argument} :
    a ∈ site.compileEach es ↔ ∃ e ∈ es, a = ⟨e, site.compile e⟩ := by
  induction es with
  | nil => simp [compileEach]
  | cons e es ih => rw [compileEach, List.mem_cons, ih, List.exists_mem_cons_iff]

theorem Refers.call {f : Function} {es : List Expression}
    (hNone : site.grouping.operand? (.call f es) = none)
    (h : f.standard? ≠ some .rnd → ∀ e ∈ es, site.Refers e) : site.Refers (.call f es) := by
  refine .of_filter?_none ?_ ?_
  · rw [filter?.eq_def, hNone]
  · have hPlain : ∀ a ∈ site.compileEach es, Yields a.operand Operand.Plain := by
      intro a ha
      obtain ⟨e, _, rfl⟩ := mem_compileEach.mp ha
      exact plain_compile e
    have hArguments : f.standard? ≠ some .rnd → ∀ a ∈ site.compileEach es,
        a.RefersTo fun a => site.Reads a.expression := by
      intro hRandom a ha
      obtain ⟨e, he, rfl⟩ := mem_compileEach.mp ha
      exact (h hRandom e he).value
    have hReads : ∀ r, Call.Reads (fun a => site.Reads a.expression) (site.compileEach es) r ↔
        ∃ e ∈ es, site.Reads e r := by
      intro r
      simp [Call.Reads, mem_compileEach]
    rw [compile, hNone]
    refine (Function.compile_yields _ hArguments hPlain).map fun v hv r => ?_
    change r ∈ v.freeReferences ↔ _
    rw [hv, Function.Reads, hReads, reads_iff hNone, Expression.inputs]
    constructor
    · rintro (⟨hRandom, hRead⟩ | ⟨hEnds, hPattern, rfl⟩)
      · rw [if_neg hRandom]
        exact .inr hRead
      · exact .inl (.suffix ⟨hEnds, hPattern⟩)
    · rintro (hItself | hRead)
      · cases hItself with
        | suffix hSuffix => exact .inr ⟨hSuffix.1, hSuffix.2, rfl⟩
      · split at hRead
        · simp at hRead
        · rename_i hRandom
          exact .inl ⟨hRandom, hRead⟩

/-- What is compiled at a site refers to what it reads there. -/
theorem refers (site : Site) (e : Expression) : site.Refers e := by
  induction e using Expression.input_induction with
  | step e ih =>
    cases hNone : site.grouping.operand? e with
    | some o => exact refers_of_operand? hNone
    | none =>
      cases e with
      | column ref => exact refers_column hNone
      | property name => exact refers_property hNone
      | constant c => exact refers_constant hNone
      | aggregate a => exact refers_aggregate hNone
      | unary op e =>
        by_cases hNot : op = .not
        · subst hNot
          cases hc : e.complement? with
          | none =>
            rw [Expression.inputs_not hc] at ih
            exact (ih e (.head _)).not hc hNone
          | some c =>
            rw [Expression.inputs_not_of_complement? hc] at ih
            exact (ih c (.head _)).complement hc hNone
        · rw [Expression.inputs_unary hNot] at ih
          exact (ih e (.head _)).unary hNot hNone
      | binary op l r => exact .binary hNone (ih l (.head _)) (ih r (.tail _ (.head _)))
      | between t l u =>
        exact .between hNone (ih t (.head _)) (ih l (.tail _ (.head _)))
          (ih u (.tail _ (.tail _ (.head _))))
      | member l cs => exact .member hNone (ih l (.head _)) fun c hc => ih c (.tail _ hc)
      | group op es => exact .group hNone ih
      | call f es =>
        refine .call hNone fun hRandom e he => ih e ?_
        rw [Expression.inputs, if_neg hRandom]
        exact he

end

end Site

end RelPipe
