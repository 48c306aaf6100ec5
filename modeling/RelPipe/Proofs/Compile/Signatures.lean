import RelPipe.Proofs.CaselessMap
import RelPipe.Proofs.Compile.AlikeCalls
import RelPipe.Proofs.Compile.Reads

/-!
Expressions of one signature compile alike. At any site, whatever is looked up there is found for
both or for neither: entries of the grouping and subqueries by signature, aliases and variables in
any letter case. So one field can hold the result of all expressions of a signature.
-/

namespace RelPipe

set_option autoImplicit false

/-! Signatures -/

theorem Expression.normalizedAll_eq_map (es : List Expression) :
    normalizedAll es = es.map normalized := by
  induction es with
  | nil => rfl
  | cons e es ih => rw [normalizedAll, ih, List.map_cons]

theorem Expression.signature_eq_iff {e e' : Expression} :
    e.signature = e'.signature ↔ e.normalized = e'.normalized :=
  ⟨congrArg Signature.expression, congrArg Signature.mk⟩

theorem Expression.forall₂_signature {es es' : List Expression}
    (h : normalizedAll es = normalizedAll es') :
    List.Forall₂ (fun e e' => e.signature = e'.signature) es es' := by
  rw [normalizedAll_eq_map, normalizedAll_eq_map, ← List.forall₂_eq_eq_eq,
    List.forall₂_map_left_iff, List.forall₂_map_right_iff] at h
  exact h.imp fun _ _ hSame => signature_eq_iff.mpr hSame

/-- Expressions of one form whose parts have the same signatures. -/
inductive Expression.SameForm : Expression → Expression → Prop where
  | column {c c' : ColumnRef} (h : c.folded = c'.folded) : SameForm (.column c) (.column c')
  | property {name name' : String} (h : foldName name = foldName name') :
    SameForm (.property name) (.property name')
  | constant (c : Constant) : SameForm (.constant c) (.constant c)
  | unary (op : UnaryOp) {e e' : Expression} (h : e.signature = e'.signature) :
    SameForm (.unary op e) (.unary op e')
  | binary (op : BinaryOp) {l l' r r' : Expression} (hl : l.signature = l'.signature)
    (hr : r.signature = r'.signature) : SameForm (.binary op l r) (.binary op l' r')
  | between {t t' l l' u u' : Expression} (ht : t.signature = t'.signature)
    (hl : l.signature = l'.signature) (hu : u.signature = u'.signature) :
    SameForm (.between t l u) (.between t' l' u')
  | member {l l' : Expression} {cs cs' : List Expression} (hl : l.signature = l'.signature)
    (hcs : List.Forall₂ (fun c c' => c.signature = c'.signature) cs cs') :
    SameForm (.member l cs) (.member l' cs')
  | group (op : GroupOp) {es es' : List Expression}
    (h : List.Forall₂ (fun e e' => e.signature = e'.signature) es es') :
    SameForm (.group op es) (.group op es')
  | call {f f' : Function} {es es' : List Expression} (hf : f.folded = f'.folded)
    (h : List.Forall₂ (fun e e' => e.signature = e'.signature) es es') :
    SameForm (.call f es) (.call f' es')
  | aggregate {a a' : Aggregate} (h : a.signature = a'.signature)
    (hStatement : a.statement.isSome = a'.statement.isSome) :
    SameForm (.aggregate a) (.aggregate a')

theorem Aggregate.isSome_statement_normalized (a : Aggregate) :
    a.normalized.statement.isSome = a.statement.isSome := by
  obtain ⟨kind, target, statement⟩ := a
  cases statement <;> rfl

theorem Expression.sameForm_of_signature {e e' : Expression} (h : e.signature = e'.signature) :
    e.SameForm e' := by
  have hNormalized := signature_eq_iff.mp h
  cases e <;> cases e' <;> simp only [normalized, reduceCtorEq] at hNormalized
  case column.column => exact .column (Expression.column.inj hNormalized)
  case property.property => exact .property (Expression.property.inj hNormalized)
  case constant.constant =>
    cases hNormalized
    exact .constant _
  case unary.unary =>
    obtain ⟨rfl, he⟩ := Expression.unary.inj hNormalized
    exact .unary _ (signature_eq_iff.mpr he)
  case binary.binary =>
    obtain ⟨rfl, hl, hr⟩ := Expression.binary.inj hNormalized
    exact .binary _ (signature_eq_iff.mpr hl) (signature_eq_iff.mpr hr)
  case between.between =>
    obtain ⟨ht, hl, hu⟩ := Expression.between.inj hNormalized
    exact .between (signature_eq_iff.mpr ht) (signature_eq_iff.mpr hl) (signature_eq_iff.mpr hu)
  case member.member =>
    obtain ⟨hl, hcs⟩ := Expression.member.inj hNormalized
    exact .member (signature_eq_iff.mpr hl) (forall₂_signature hcs)
  case group.group =>
    obtain ⟨rfl, hes⟩ := Expression.group.inj hNormalized
    exact .group _ (forall₂_signature hes)
  case call.call =>
    obtain ⟨hf, hes⟩ := Expression.call.inj hNormalized
    exact .call hf (forall₂_signature hes)
  case aggregate.aggregate a a' =>
    refine .aggregate h ?_
    rw [← a.isSome_statement_normalized, Expression.aggregate.inj hNormalized,
      a'.isSome_statement_normalized]

theorem Expression.signature_binary (op : BinaryOp) {l l' r r' : Expression}
    (hl : l.signature = l'.signature) (hr : r.signature = r'.signature) :
    (Expression.binary op l r).signature = (Expression.binary op l' r').signature := by
  rw [signature_eq_iff] at hl hr ⊢
  rw [normalized, normalized, hl, hr]

/-- Predicates of one signature have complements of one signature, or both have none. -/
theorem Expression.rel_complement? {e e' : Expression} (h : e.signature = e'.signature) :
    Option.Rel (fun c c' => c.signature = c'.signature) e.complement? e'.complement? := by
  cases sameForm_of_signature h with
  | unary op hOperand =>
    cases op with
    | not => exact .some hOperand
    | _ => exact .none
  | binary op hl hr =>
    rw [complement?, complement?]
    cases op.complement? with
    | none => exact .none
    | some op => exact .some (signature_binary op hl hr)
  | between ht hl hu =>
    refine .some (signature_eq_iff.mpr ?_)
    have hBelow := signature_eq_iff.mp (signature_binary .less ht hl)
    have hAbove := signature_eq_iff.mp (signature_binary .greater ht hu)
    rw [normalized, normalized, normalizedAll_eq_map, normalizedAll_eq_map]
    simp only [List.map_cons, List.map_nil, hBelow, hAbove]
  | _ => exact .none

/-! What is looked up -/

theorem Grouping.operand?_congr (g : Grouping) {e e' : Expression}
    (h : e.signature = e'.signature) : g.operand? e = g.operand? e' := by
  unfold operand?
  -- Constants are not looked up at all, and those of one signature are the same.
  cases Expression.sameForm_of_signature h with
  | constant => rfl
  | _ =>
    dsimp only
    rw [h]

theorem ColumnRef.folded_eq_iff {c c' : ColumnRef} :
    c.folded = c'.folded ↔ c.qualifier.map Text.lower = c'.qualifier.map Text.lower ∧
      foldName c.name = foldName c'.name ∧ c.columnType = c'.columnType := by
  simp only [folded, mk.injEq]

theorem Scope.alike_propertyPath {name name' : String} (h : foldName name = foldName name') :
    PathAlike (propertyPath name) (propertyPath name') :=
  .ends "" h

theorem Scope.alike_columnPath (scope : Scope) {c c' : ColumnRef} (h : c.folded = c'.folded) :
    PathAlike (scope.columnPath c) (scope.columnPath c') := by
  obtain ⟨hQualifiers, hName, _⟩ := ColumnRef.folded_eq_iff.mp h
  have hQualifier : Text.lower (c.qualifier.getD scope.aliases.root) =
      Text.lower (c'.qualifier.getD scope.aliases.root) := by
    rw [← Option.getD_map Text.lower, ← Option.getD_map Text.lower, hQualifiers]
  have hKey : CorrelationKey.of (c.qualifier.getD scope.aliases.root) c.name =
      .of (c'.qualifier.getD scope.aliases.root) c'.name := by
    rw [CorrelationKey.of, CorrelationKey.of, hQualifier, hName]
  unfold columnPath AliasTable.fieldPath
  rw [hKey, scope.aliases.paths.get?_congr hQualifier]
  split
  · exact .same _
  · dsimp only
    split
    · split
      · exact .ends "" hName
      · rename_i path _ _
        have hPath := PathAlike.ends (path ++ ".") hName
        rwa [← String.append_assoc] at hPath
    · exact .ends "" hName

namespace Site

variable {site : Site}

theorem alike_aggregate {a a' : Aggregate} (h : a.signature = a'.signature)
    (hStatement : a.statement.isSome = a'.statement.isSome) :
    OutcomesAlike Operand.Alike (site.aggregate a) (site.aggregate a') := by
  unfold aggregate
  rw [h]
  cases hFirst : a.statement with
  | none =>
    cases hSecond : a'.statement with
    | none => exact .error (.aggregateOutsideGrouping h)
    | some s => simp [hFirst, hSecond] at hStatement
  | some s =>
    cases hSecond : a'.statement with
    | none => simp [hFirst, hSecond] at hStatement
    | some s' =>
      dsimp only
      split
      · exact .ok (.field (.same _))
      · exact .error (.unplannedSubquery h)

end Site

theorem Constant.alike_value (c : Constant) :
    OutcomesAlike Operand.Alike (c.value.map .constant) (c.value.map .constant) := by
  cases c with
  | decimal text =>
    rw [value]
    split
    · exact .ok (.constant _)
    · exact .error (.invalidDecimal text)
  | _ => exact .ok (.constant _)

/-! Expressions -/

/-- Both compiled forms of two expressions are alike. -/
structure Site.CompilesAlike (site : Site) (e e' : Expression) : Prop where
  signature : e.signature = e'.signature
  operand : OutcomesAlike Operand.Alike (site.compile e) (site.compile e')
  filter : OutcomesAlike (Option.Rel Filter.Alike) (site.filter? e) (site.filter? e')

namespace Site

namespace CompilesAlike

variable {site : Site} {e e' l l' r r' t t' u u' : Expression} {es es' : List Expression}

theorem value (h : site.CompilesAlike e e') :
    OutcomesAlike Value.Alike (site.value e) (site.value e') :=
  h.operand.map fun _ _ ho => ho.render

theorem clause (h : site.CompilesAlike e e') :
    OutcomesAlike Filter.Alike (site.clauseOf e) (site.clauseOf e') := by
  refine h.filter.bind fun f? f?' hf => ?_
  cases hf with
  | none => exact h.value.map fun _ _ hv => .computed hv
  | some hf => exact .ok hf

theorem argument (h : site.CompilesAlike e e') :
    Argument.Alike ⟨e, site.compile e⟩ ⟨e', site.compile e'⟩ :=
  ⟨h.signature, h.operand⟩

theorem arguments (h : List.Forall₂ site.CompilesAlike es es') :
    List.Forall₂ Argument.Alike (site.compileEach es) (site.compileEach es') := by
  induction h with
  | nil => exact .nil
  | cons h _ ih => exact .cons h.argument ih

theorem operands (h : List.Forall₂ site.CompilesAlike es es') :
    OutcomesAlike (List.Forall₂ Operand.Alike) (site.operands es) (site.operands es') := by
  induction h with
  | nil => exact .ok .nil
  | cons h _ ih => exact h.operand.bind fun o o' ho => ih.bind fun os os' hos => .ok (.cons ho hos)

theorem filters (h : List.Forall₂ site.CompilesAlike es es') :
    OutcomesAlike (List.Forall₂ Filter.Alike) (site.filters es) (site.filters es') := by
  induction h with
  | nil => exact .ok .nil
  | cons h _ ih =>
    rw [filters_cons, filters_cons]
    exact h.clause.bind fun f f' hf => ih.map fun fs fs' hfs => .cons hf hfs

theorem of_operand? (hSame : e.signature = e'.signature) {o : Operand}
    (h : site.grouping.operand? e = some o) : site.CompilesAlike e e' := by
  have h' : site.grouping.operand? e' = some o := by rw [← site.grouping.operand?_congr hSame, h]
  refine ⟨hSame, ?_, ?_⟩
  · rw [compile_of_operand? h, compile_of_operand? h']
    exact .ok (.refl o)
  · rw [filter?.eq_def, h, filter?.eq_def, h']
    exact .ok .none

theorem of_filter?_none (hSame : e.signature = e'.signature) (h : site.filter? e = .ok none)
    (h' : site.filter? e' = .ok none)
    (hOperand : OutcomesAlike Operand.Alike (site.compile e) (site.compile e')) :
    site.CompilesAlike e e' := by
  refine ⟨hSame, hOperand, ?_⟩
  rw [h, h']
  exact .ok .none

/-! One form after the other. Neither expression has been grouped. -/

theorem complement {c c' : Expression}
    (hSame : (Expression.unary .not e).signature = (Expression.unary .not e').signature)
    (hc : e.complement? = some c) (hc' : e'.complement? = some c')
    (hNone : site.grouping.operand? (.unary .not e) = none)
    (hNone' : site.grouping.operand? (.unary .not e') = none) (h : site.CompilesAlike c c') :
    site.CompilesAlike (.unary .not e) (.unary .not e') := by
  refine ⟨hSame, ?_, ?_⟩
  · rw [compile_not_of_complement? hc hNone, compile_not_of_complement? hc' hNone']
    exact h.operand
  · rw [filter?_not_of_complement? hc hNone, filter?_not_of_complement? hc' hNone']
    exact h.filter

theorem not (hSame : (Expression.unary .not e).signature = (Expression.unary .not e').signature)
    (hc : e.complement? = none) (hc' : e'.complement? = none)
    (hNone : site.grouping.operand? (.unary .not e) = none)
    (hNone' : site.grouping.operand? (.unary .not e') = none) (h : site.CompilesAlike e e') :
    site.CompilesAlike (.unary .not e) (.unary .not e') := by
  refine ⟨hSame, ?_, ?_⟩
  · rw [compile_not hc hNone, compile_not hc' hNone']
    exact h.operand.map fun _ _ ho => ho.unary .not
  · rw [filter?_not hc hNone, filter?_not hc' hNone']
    refine h.filter.bind fun f? f?' hf => OutcomesAlike.map (R := Filter.Alike) ?_ fun _ _ => .some
    cases hf with
    | none => exact h.value.map fun _ _ hv => .computed (.apply (by decide) (.cons hv .nil))
    | some hf => exact .ok (.negation hf)

theorem unary {op : UnaryOp} (hop : op ≠ .not)
    (hSame : (Expression.unary op e).signature = (Expression.unary op e').signature)
    (hNone : site.grouping.operand? (.unary op e) = none)
    (hNone' : site.grouping.operand? (.unary op e') = none) (h : site.CompilesAlike e e') :
    site.CompilesAlike (.unary op e) (.unary op e') := by
  refine .of_filter?_none hSame (filter?_unary hop hNone) (filter?_unary hop hNone') ?_
  rw [compile_unary hop hNone, compile_unary hop hNone']
  exact h.operand.map fun _ _ ho => ho.unary op

theorem binary {op : BinaryOp}
    (hSame : (Expression.binary op l r).signature = (Expression.binary op l' r').signature)
    (hNone : site.grouping.operand? (.binary op l r) = none)
    (hNone' : site.grouping.operand? (.binary op l' r') = none) (hl : site.CompilesAlike l l')
    (hr : site.CompilesAlike r r') : site.CompilesAlike (.binary op l r) (.binary op l' r') := by
  refine ⟨hSame, ?_, ?_⟩
  · rw [compile_binary, compile_binary, resolve, resolve, hNone, hNone']
    by_cases hLike : op = .like
    · subst hLike
      exact (Call.alike_likeCall site.caseSensitive hl.argument hr.argument).map fun _ _ => .computed
    · dsimp only
      rw [binary_of_ne_like hLike, binary_of_ne_like hLike]
      exact hl.operand.bind fun _ _ hLeft => hr.operand.map fun _ _ hRight => hLeft.binary op hRight
  · rw [filter?, filter?, hNone, hNone']
    dsimp only
    split
    · rw [comparisonFilter?, comparisonFilter?, hNone, hNone']
      exact hl.operand.bind fun _ _ hLeft => hr.operand.bind fun _ _ hRight =>
        .ok (.some (.ofComparison op hLeft hRight))
    · exact .ok .none

theorem between
    (hSame : (Expression.between t l u).signature = (Expression.between t' l' u').signature)
    (hNone : site.grouping.operand? (.between t l u) = none)
    (hNone' : site.grouping.operand? (.between t' l' u') = none) (ht : site.CompilesAlike t t')
    (hl : site.CompilesAlike l l') (hu : site.CompilesAlike u u') :
    site.CompilesAlike (.between t l u) (.between t' l' u') := by
  refine ⟨hSame, ?_, ?_⟩
  · rw [compile_between hNone, compile_between hNone']
    exact ht.operand.bind fun _ _ hTest => hl.operand.bind fun _ _ hLow =>
      hu.operand.map fun _ _ hHigh => .computed (hTest.rangeComparison hLow hHigh)
  · rw [filter?, filter?, hNone, hNone']
    exact ht.operand.bind fun _ _ hTest => hl.operand.bind fun _ _ hLow =>
      hu.operand.bind fun _ _ hHigh => .ok (.some (.ofRange hTest hLow hHigh))

theorem member (hSame : (Expression.member l es).signature = (Expression.member l' es').signature)
    (hNone : site.grouping.operand? (.member l es) = none)
    (hNone' : site.grouping.operand? (.member l' es') = none) (hl : site.CompilesAlike l l')
    (h : List.Forall₂ site.CompilesAlike es es') :
    site.CompilesAlike (.member l es) (.member l' es') := by
  refine ⟨hSame, ?_, ?_⟩
  · rw [compile_member hNone, compile_member hNone']
    exact hl.operand.bind fun _ _ hLeft => (operands h).map fun _ _ hos =>
      .computed (hLeft.membership hos)
  · rw [filter?, filter?, hNone, hNone']
    exact hl.operand.bind fun _ _ hLeft => (operands h).bind fun _ _ hos =>
      .ok (.some (.ofMembership hLeft hos))

theorem group {op : GroupOp}
    (hSame : (Expression.group op es).signature = (Expression.group op es').signature)
    (hNone : site.grouping.operand? (.group op es) = none)
    (hNone' : site.grouping.operand? (.group op es') = none)
    (h : List.Forall₂ site.CompilesAlike es es') :
    site.CompilesAlike (.group op es) (.group op es') := by
  refine ⟨hSame, ?_, ?_⟩
  · rw [compile_group hNone, compile_group hNone']
    exact (Call.alike_values (arguments h)).map fun _ _ hvs =>
      .computed (.apply op.operator_plain.1 hvs)
  · rw [filter?_group hNone, filter?_group hNone']
    exact (filters h).map fun _ _ hfs => Filter.Alike.ofGroup? op hfs

theorem call {f f' : Function} (hf : f.folded = f'.folded)
    (hSame : (Expression.call f es).signature = (Expression.call f' es').signature)
    (hNone : site.grouping.operand? (.call f es) = none)
    (hNone' : site.grouping.operand? (.call f' es') = none) (hLength : es.length = es'.length)
    (h : f.standard? ≠ some .rnd → List.Forall₂ site.CompilesAlike es es') :
    site.CompilesAlike (.call f es) (.call f' es') := by
  refine .of_filter?_none hSame ?_ ?_ ?_
  · rw [filter?.eq_def, hNone]
  · rw [filter?.eq_def, hNone']
  · rw [compile, compile, hNone, hNone']
    have hArguments : (site.compileEach es).length = (site.compileEach es').length := by
      rw [site.length_compileEach, site.length_compileEach, hLength]
    exact (f.alike_compile _ hf hArguments fun hRandom => arguments (h hRandom)).map
      fun _ _ => .computed

end CompilesAlike

theorem compilesAlike (site : Site) (e : Expression) {e' : Expression}
    (h : e.signature = e'.signature) : site.CompilesAlike e e' := by
  -- The induction follows the first expression to what it is compiled from. The second takes the
  -- same steps, also from a negation to a complement that is none of its parts.
  induction e using Expression.input_induction generalizing e' with
  | step e ih =>
    cases hNone : site.grouping.operand? e with
    | some o => exact .of_operand? h hNone
    | none =>
      have hNone' : site.grouping.operand? e' = none := by
        rw [← site.grouping.operand?_congr h, hNone]
      have hEach : ∀ {es es' : List Expression}, (∀ c ∈ es, c ∈ e.inputs) →
          List.Forall₂ (fun c c' => c.signature = c'.signature) es es' →
          List.Forall₂ site.CompilesAlike es es' := by
        intro es es' hInputs hes
        have hBoth := (List.forall₂_and_left _ _).mpr ⟨hInputs, hes⟩
        exact hBoth.imp fun c c' hc => ih c hc.1 hc.2
      cases Expression.sameForm_of_signature h with
      | column hc =>
        refine .of_filter?_none h ?_ ?_ ?_
        · rw [filter?.eq_def, hNone]
        · rw [filter?.eq_def, hNone']
        · rw [compile, compile, hNone, hNone']
          exact .ok (.field (site.scope.alike_columnPath hc))
      | property hName =>
        refine .of_filter?_none h ?_ ?_ ?_
        · rw [filter?.eq_def, hNone]
        · rw [filter?.eq_def, hNone']
        · rw [compile, compile, hNone, hNone']
          exact .ok (.field (Scope.alike_propertyPath hName))
      | constant c =>
        refine .of_filter?_none h ?_ ?_ ?_
        · rw [filter?.eq_def, hNone]
        · rw [filter?.eq_def, hNone']
        · rw [compile, hNone]
          exact c.alike_value
      | aggregate hAggregate hStatement =>
        refine .of_filter?_none h ?_ ?_ ?_
        · rw [filter?.eq_def, hNone]
        · rw [filter?.eq_def, hNone']
        · rw [compile, compile, hNone, hNone']
          exact alike_aggregate hAggregate hStatement
      | @unary op e e' hOperand =>
        by_cases hNot : op = .not
        · subst hNot
          have hComplement := Expression.rel_complement? hOperand
          generalize hc : e.complement? = c?, hc' : e'.complement? = c?' at hComplement
          cases hComplement with
          | none =>
            rw [Expression.inputs_not hc] at ih
            exact .not h hc hc' hNone hNone' (ih e (.head _) hOperand)
          | some hSame =>
            rw [Expression.inputs_not_of_complement? hc] at ih
            exact .complement h hc hc' hNone hNone' (ih _ (.head _) hSame)
        · rw [Expression.inputs_unary hNot] at ih
          exact .unary hNot h hNone hNone' (ih e (.head _) hOperand)
      | binary op hl hr =>
        exact .binary h hNone hNone' (ih _ (.head _) hl) (ih _ (.tail _ (.head _)) hr)
      | between ht hl hu =>
        exact .between h hNone hNone' (ih _ (.head _) ht) (ih _ (.tail _ (.head _)) hl)
          (ih _ (.tail _ (.tail _ (.head _))) hu)
      | member hl hcs =>
        exact .member h hNone hNone' (ih _ (.head _) hl)
          (hEach (fun c hc => .tail _ hc) hcs)
      | group op hes => exact .group h hNone hNone' (hEach (fun c hc => hc) hes)
      | call hf hes =>
        refine .call hf h hNone hNone' hes.length_eq fun hRandom => hEach (fun c hc => ?_) hes
        rw [Expression.inputs, if_neg hRandom]
        exact hc

/-- At any site, two expressions of one signature compile to operands of one kind and to filters of
one form that differ in spelling only, or they fail for causes that do. -/
theorem alike_of_signature (site : Site) {e e' : Expression} (h : e.signature = e'.signature) :
    OutcomesAlike Operand.Alike (site.compile e) (site.compile e') ∧
      OutcomesAlike FilterDocumentAlike (site.filterDocument e) (site.filterDocument e') := by
  have hAlike := site.compilesAlike e h
  refine ⟨hAlike.operand, ?_⟩
  rw [filterDocument_eq_clauseOf, filterDocument_eq_clauseOf]
  exact hAlike.clause.map fun _ _ hf => hf.toDocument

end Site

def Expression.smallOrders (qualifier total tag : String) : Expression :=
  .group .and
    [.binary .less (.column ⟨some qualifier, total, .double⟩) (.constant (.int32 5)),
     .binary .equal (.call (.custom tag) [.property "Mark"]) (.constant (.string "X"))]

def Value.smallOrders (total : String) : Value :=
  .apply "$and"
    [.apply "$and" [.apply "$lt" [.string total, .int32 5], (Value.string total).present],
     .apply "$eq" [.single "$toUpper" (.string "$Mark"), .string "X"]]

def Site.ofOrders : Site := ⟨.rooted "o" [], .empty, false⟩

theorem Site.alike_of_signature_smallOrders :
    let e := Expression.smallOrders "O" "Total,5" "upper"
    let e' := Expression.smallOrders "o" "total" "Upper"
    e.signature = e'.signature ∧
      ofOrders.filterDocument e = .ok [("$expr", .smallOrders "$Total")] ∧
      ofOrders.filterDocument e' = .ok [("$expr", .smallOrders "$total")] ∧
      OutcomesAlike Operand.Alike (ofOrders.compile e) (ofOrders.compile e') ∧
      OutcomesAlike FilterDocumentAlike (ofOrders.filterDocument e)
        (ofOrders.filterDocument e') := by
  have hSame : (Expression.smallOrders "O" "Total,5" "upper").signature =
      (Expression.smallOrders "o" "total" "Upper").signature := by decide +kernel
  exact ⟨hSame, rfl, rfl, ofOrders.alike_of_signature hSame⟩

end RelPipe
