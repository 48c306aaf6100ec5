import RelPipe.Proofs.Compile.Variation

/-!
Expressions in two runs of the compiler. The second run compiles the expression with its other
qualifiers in the same scope and for the same grouping, and follows the first: to the operand and
the filter that vary the first run's, or to its failure.
-/

namespace RelPipe

set_option autoImplicit false

theorem Expression.complement?_requalify (f : String → String) (e : Expression) :
    (e.requalify f).complement? = e.complement?.map (requalify f) := by
  cases e with
  | unary op e => cases op <;> rfl
  | binary op l r => cases h : op.complement? <;> simp [requalify, complement?, h]
  | _ => rfl

def Expression.isFilterless : Expression → Bool
  | .column _ | .property _ | .constant _ | .call _ _ | .aggregate _ => true
  | _ => false

theorem Site.filter?_of_isFilterless {site : Site} {e : Expression} (h : e.isFilterless = true)
    (hNone : site.grouping.operand? e = none) : site.filter? e = .ok none := by
  rw [filter?.eq_def, hNone]
  cases e <;> first | rfl | cases h

theorem Constant.requalify_of_value {c : Constant} {e : CompileError} (h : c.value = .error e)
    (f : String → String) : e.requalify f = e := by
  cases c with
  | decimal text =>
    rw [value] at h
    split at h <;> cases h
    rfl
  | _ => cases h

variable {caseSensitive caseSensitive' : Bool} (m : Variation caseSensitive caseSensitive')

namespace Variation

def before (_ : Variation caseSensitive caseSensitive') (scope : Scope) (g : Grouping) : Site :=
  ⟨scope, g, caseSensitive⟩

def after (scope : Scope) (g : Grouping) : Site :=
  ⟨scope, g.requalify m.qualifier, caseSensitive'⟩

theorem operand?_after (scope : Scope) (g : Grouping) (e : Expression) :
    (m.after scope g).grouping.operand? (e.requalify m.qualifier) =
      (m.before scope g).grouping.operand? e :=
  g.operand?_requalify m.keepsCaseless e

/-- The second run follows the first in both compiled forms of an expression. -/
structure Compiles (scope : Scope) (g : Grouping) (e : Expression) : Prop where
  operand : m.Follows (Operand.Varies m) ((m.before scope g).compile e)
    ((m.after scope g).compile (e.requalify m.qualifier))
  filter : m.Follows (Option.Rel (Filter.Varies m)) ((m.before scope g).filter? e)
    ((m.after scope g).filter? (e.requalify m.qualifier))

namespace Compiles

variable {m} {scope : Scope} {g : Grouping} {e l r t u : Expression} {es : List Expression}

theorem value (h : m.Compiles scope g e) :
    m.Follows m.Turns ((m.before scope g).value e)
      ((m.after scope g).value (e.requalify m.qualifier)) :=
  h.operand.map fun _ _ ho => ho.render

theorem clause (h : m.Compiles scope g e) :
    m.Follows (Filter.Varies m) ((m.before scope g).clauseOf e)
      ((m.after scope g).clauseOf (e.requalify m.qualifier)) := by
  refine h.filter.bind fun f? f?' hf => ?_
  cases hf with
  | none => exact h.value.map fun _ _ hv => .of_turns hv
  | some hf => exact .ok hf

theorem argument (h : m.Compiles scope g e) :
    Argument.Corresponds m.Fails m.Turns ⟨e, (m.before scope g).compile e⟩
      ⟨e.requalify m.qualifier, (m.after scope g).compile (e.requalify m.qualifier)⟩ where
  value := h.value
  pattern := by
    refine h.operand.bind fun o o' ho => ?_
    rw [← ho.constant?]
    split
    · exact .ok rfl
    · exact .error rfl

theorem arguments (h : ∀ e ∈ es, m.Compiles scope g e) :
    List.Forall₂ (Argument.Corresponds m.Fails m.Turns) ((m.before scope g).compileEach es)
      ((m.after scope g).compileEach (Expression.requalifyAll m.qualifier es)) := by
  induction es with
  | nil => exact .nil
  | cons e es ih =>
    obtain ⟨hHead, hTail⟩ := List.forall_mem_cons.mp h
    exact .cons hHead.argument (ih hTail)

theorem operands (h : ∀ e ∈ es, m.Compiles scope g e) :
    m.Follows (List.Forall₂ (Operand.Varies m)) ((m.before scope g).operands es)
      ((m.after scope g).operands (Expression.requalifyAll m.qualifier es)) := by
  induction es with
  | nil => exact .ok .nil
  | cons e es ih =>
    obtain ⟨hHead, hTail⟩ := List.forall_mem_cons.mp h
    exact hHead.operand.bind fun _ _ ho => (ih hTail).bind fun _ _ hos => .ok (.cons ho hos)

theorem filters (h : ∀ e ∈ es, m.Compiles scope g e) :
    m.Follows (List.Forall₂ (Filter.Varies m)) ((m.before scope g).filters es)
      ((m.after scope g).filters (Expression.requalifyAll m.qualifier es)) := by
  induction es with
  | nil => exact .ok .nil
  | cons e es ih =>
    obtain ⟨hHead, hTail⟩ := List.forall_mem_cons.mp h
    rw [Expression.requalifyAll, Site.filters_cons, Site.filters_cons]
    exact hHead.clause.bind fun _ _ hf => (ih hTail).map fun _ _ hfs => .cons hf hfs

theorem of_operand? {o : Operand} (h : g.operand? e = some o) : m.Compiles scope g e := by
  have hBefore : (m.before scope g).grouping.operand? e = some o := h
  have hAfter := (m.operand?_after scope g e).trans hBefore
  constructor
  · rw [Site.compile_of_operand? hBefore, Site.compile_of_operand? hAfter]
    refine .ok ?_
    -- An entry of the grouping is a field, or a count that says whether anything exists.
    unfold Grouping.operand? at h
    split at h
    · cases h
    · split at h
      · cases h
      · split at h
        · cases h
          exact .field _
        · obtain ⟨a, -, rfl⟩ := Option.map_eq_some_iff.mp h
          dsimp only
          split
          · refine .of_turns ?_
            simp only [Turns, value_apply, List.map_cons, List.map_nil,
              m.value_atom (v := .string _) rfl, m.value_atom (v := .int32 _) rfl]
          · exact .field _
  · rw [Site.filter?.eq_def, hBefore, Site.filter?.eq_def, hAfter]
    exact .ok .none

/-! One form after the other. The expression has not been grouped in either run. -/

theorem of_filter?_none (h : (m.before scope g).filter? e = .ok none)
    (h' : (m.after scope g).filter? (e.requalify m.qualifier) = .ok none)
    (hOperand : m.Follows (Operand.Varies m) ((m.before scope g).compile e)
      ((m.after scope g).compile (e.requalify m.qualifier))) : m.Compiles scope g e := by
  refine ⟨hOperand, ?_⟩
  rw [h, h']
  exact .ok .none

theorem leaf (h : e.isFilterless = true) (h' : (e.requalify m.qualifier).isFilterless = true)
    (hNone : (m.before scope g).grouping.operand? e = none)
    (hNone' : (m.after scope g).grouping.operand? (e.requalify m.qualifier) = none)
    (hOperand : m.Follows (Operand.Varies m) ((m.before scope g).compile e)
      ((m.after scope g).compile (e.requalify m.qualifier))) : m.Compiles scope g e :=
  .of_filter?_none (Site.filter?_of_isFilterless h hNone) (Site.filter?_of_isFilterless h' hNone')
    hOperand

theorem complement {c : Expression} (hc : e.complement? = some c)
    (hNone : (m.before scope g).grouping.operand? (.unary .not e) = none)
    (hNone' : (m.after scope g).grouping.operand? (.unary .not (e.requalify m.qualifier)) = none)
    (h : m.Compiles scope g c) : m.Compiles scope g (.unary .not e) := by
  have hc' : (e.requalify m.qualifier).complement? = some (c.requalify m.qualifier) := by
    rw [Expression.complement?_requalify, hc]
    rfl
  constructor
  · rw [Expression.requalify, Site.compile_not_of_complement? hc hNone,
      Site.compile_not_of_complement? hc' hNone']
    exact h.operand
  · rw [Expression.requalify, Site.filter?_not_of_complement? hc hNone,
      Site.filter?_not_of_complement? hc' hNone']
    exact h.filter

theorem not (hc : e.complement? = none)
    (hNone : (m.before scope g).grouping.operand? (.unary .not e) = none)
    (hNone' : (m.after scope g).grouping.operand? (.unary .not (e.requalify m.qualifier)) = none)
    (h : m.Compiles scope g e) : m.Compiles scope g (.unary .not e) := by
  have hc' : (e.requalify m.qualifier).complement? = none := by
    rw [Expression.complement?_requalify, hc]
    rfl
  constructor
  · rw [Expression.requalify, Site.compile_not hc hNone, Site.compile_not hc' hNone']
    exact h.operand.map fun _ _ ho => ho.unary .not
  · rw [Expression.requalify, Site.filter?_not hc hNone, Site.filter?_not hc' hNone']
    refine h.filter.bind fun f? f?' hf => Correspond.map (R := Filter.Varies m) ?_ fun _ _ => .some
    cases hf with
    | none =>
      refine h.value.map fun v v' hv => .of_turns ?_
      rw [Turns, value_apply, List.map_singleton, hv]
    | some hf => exact .ok (.negation hf)

theorem unary {op : UnaryOp} (hop : op ≠ .not)
    (hNone : (m.before scope g).grouping.operand? (.unary op e) = none)
    (hNone' : (m.after scope g).grouping.operand? (.unary op (e.requalify m.qualifier)) = none)
    (h : m.Compiles scope g e) : m.Compiles scope g (.unary op e) := by
  refine .of_filter?_none (Site.filter?_unary hop hNone) (Site.filter?_unary hop hNone') ?_
  rw [Expression.requalify, Site.compile_unary hop hNone, Site.compile_unary hop hNone']
  exact h.operand.map fun _ _ ho => ho.unary op

theorem binary {op : BinaryOp}
    (hNone : (m.before scope g).grouping.operand? (.binary op l r) = none)
    (hNone' : (m.after scope g).grouping.operand?
      (.binary op (l.requalify m.qualifier) (r.requalify m.qualifier)) = none)
    (hl : m.Compiles scope g l) (hr : m.Compiles scope g r) :
    m.Compiles scope g (.binary op l r) := by
  constructor
  · rw [Expression.requalify, Site.compile_binary, Site.compile_binary, Site.resolve, Site.resolve,
      hNone, hNone']
    by_cases hLike : op = .like
    · subst hLike
      exact (Call.rel_likeCall m.congruence hl.argument hr.argument).map fun _ _ => .of_turns
    · dsimp only
      rw [Site.binary_of_ne_like hLike, Site.binary_of_ne_like hLike]
      exact hl.operand.bind fun _ _ hLeft => hr.operand.map fun _ _ hRight => hLeft.binary op hRight
  · rw [Expression.requalify, Site.filter?, Site.filter?, hNone, hNone']
    dsimp only
    split
    · rw [Site.comparisonFilter?, Site.comparisonFilter?, hNone, hNone']
      exact hl.operand.bind fun _ _ hLeft => hr.operand.bind fun _ _ hRight =>
        .ok (.some (.ofComparison op hLeft hRight))
    · exact .ok .none

theorem between (hNone : (m.before scope g).grouping.operand? (.between t l u) = none)
    (hNone' : (m.after scope g).grouping.operand? (.between (t.requalify m.qualifier)
      (l.requalify m.qualifier) (u.requalify m.qualifier)) = none)
    (ht : m.Compiles scope g t) (hl : m.Compiles scope g l) (hu : m.Compiles scope g u) :
    m.Compiles scope g (.between t l u) := by
  constructor
  · rw [Expression.requalify, Site.compile_between hNone, Site.compile_between hNone']
    exact ht.operand.bind fun _ _ hTest => hl.operand.bind fun _ _ hLow =>
      hu.operand.map fun _ _ hHigh => .of_turns (hTest.rangeComparison hLow hHigh)
  · rw [Expression.requalify, Site.filter?, Site.filter?, hNone, hNone']
    exact ht.operand.bind fun _ _ hTest => hl.operand.bind fun _ _ hLow =>
      hu.operand.bind fun _ _ hHigh => .ok (.some (.ofRange hTest hLow hHigh))

theorem member (hNone : (m.before scope g).grouping.operand? (.member l es) = none)
    (hNone' : (m.after scope g).grouping.operand? (.member (l.requalify m.qualifier)
      (Expression.requalifyAll m.qualifier es)) = none)
    (hl : m.Compiles scope g l) (h : ∀ e ∈ es, m.Compiles scope g e) :
    m.Compiles scope g (.member l es) := by
  constructor
  · rw [Expression.requalify, Site.compile_member hNone, Site.compile_member hNone']
    exact hl.operand.bind fun _ _ hLeft => (operands h).map fun _ _ hos =>
      .of_turns (hLeft.membership hos)
  · rw [Expression.requalify, Site.filter?, Site.filter?, hNone, hNone']
    exact hl.operand.bind fun _ _ hLeft => (operands h).bind fun _ _ hos =>
      .ok (.some (.ofMembership hLeft hos))

theorem group {op : GroupOp} (hNone : (m.before scope g).grouping.operand? (.group op es) = none)
    (hNone' : (m.after scope g).grouping.operand?
      (.group op (Expression.requalifyAll m.qualifier es)) = none)
    (h : ∀ e ∈ es, m.Compiles scope g e) : m.Compiles scope g (.group op es) := by
  constructor
  · rw [Expression.requalify, Site.compile_group hNone, Site.compile_group hNone']
    have hName : op.operator ≠ "$literal" ∧ op.operator ≠ "$regexMatch" := by cases op <;> decide
    exact (Call.rel_values (arguments h)).map fun _ _ hvs =>
      .of_turns (m.congruence.apply hName hvs)
  · rw [Expression.requalify, Site.filter?_group hNone, Site.filter?_group hNone']
    exact (filters h).map fun _ _ hfs => Filter.Varies.ofGroup? op hfs

theorem call {function : Function}
    (hNone : (m.before scope g).grouping.operand? (.call function es) = none)
    (hNone' : (m.after scope g).grouping.operand?
      (.call function (Expression.requalifyAll m.qualifier es)) = none)
    (h : function.standard? ≠ some .rnd → ∀ e ∈ es, m.Compiles scope g e) :
    m.Compiles scope g (.call function es) := by
  refine .leaf rfl rfl hNone hNone' ?_
  rw [Expression.requalify, Site.compile, Site.compile, hNone, hNone']
  have hTags : ∀ tag tag', function = .custom tag → function = .custom tag' →
      m.Fails (.unsupportedFunction tag) (.unsupportedFunction tag') ∧ ∀ expected found,
        m.Fails (.argumentCount tag expected found) (.argumentCount tag' expected found) := by
    rintro tag _ rfl ⟨⟩
    exact ⟨rfl, fun _ _ => rfl⟩
  have hLength : ((m.before scope g).compileEach es).length =
      ((m.after scope g).compileEach (Expression.requalifyAll m.qualifier es)).length := by
    rw [Site.length_compileEach, Site.length_compileEach, Expression.requalifyAll_eq,
      List.length_map]
  have hCompiled := Function.rel_compile (E := m.Fails) m.congruence rfl (fun _ _ _ => rfl) hTags
    hLength fun hRandom => arguments (h hRandom)
  exact hCompiled.map fun _ _ => .of_turns

theorem aggregate {a : Aggregate}
    (hNone : (m.before scope g).grouping.operand? (.aggregate a) = none)
    (hNone' : (m.after scope g).grouping.operand? (.aggregate (a.requalify m.qualifier)) = none) :
    m.Compiles scope g (.aggregate a) := by
  refine .leaf rfl rfl hNone hNone' ?_
  rw [Expression.requalify, Site.compile, Site.compile, hNone, hNone']
  dsimp only [Site.aggregate, before, after]
  rw [a.signature_requalify m.keepsCaseless, a.statement_requalify]
  cases a.statement with
  | none => exact .error rfl
  | some s =>
    dsimp only [Option.map_some]
    split
    · exact .ok (.field _)
    · exact .error rfl

end Compiles

theorem compiles (scope : Scope) (g : Grouping) (e : Expression) : m.Compiles scope g e := by
  induction e using Expression.input_induction with
  | step e ih =>
    have hAfter := m.operand?_after scope g e
    cases hNone : (m.before scope g).grouping.operand? e with
    | some o => exact .of_operand? hNone
    | none =>
      rw [hNone] at hAfter
      cases e with
      | column c =>
        refine .leaf rfl rfl hNone hAfter ?_
        rw [Expression.requalify] at hAfter ⊢
        rw [Site.compile, Site.compile, hNone, hAfter]
        dsimp only [before, after]
        rw [scope.columnPath_requalify m.keepsCaseless]
        exact .ok (.field _)
      | property name =>
        refine .leaf rfl rfl hNone hAfter ?_
        rw [Expression.requalify] at hAfter ⊢
        rw [Site.compile, Site.compile, hNone, hAfter]
        exact .ok (.field _)
      | constant c =>
        refine .leaf rfl rfl hNone hAfter ?_
        rw [Expression.requalify] at hAfter ⊢
        rw [Site.compile, Site.compile, hNone, hAfter]
        cases hc : c.value with
        | ok v => exact .ok (.constant (Constant.isAtom_value hc))
        | error err => exact .error (Constant.requalify_of_value hc m.qualifier).symm
      | unary op e =>
        by_cases hNot : op = .not
        · subst hNot
          cases hc : e.complement? with
          | none =>
            rw [Expression.inputs_not hc] at ih
            exact .not hc hNone hAfter (ih e (.head _))
          | some c =>
            rw [Expression.inputs_not_of_complement? hc] at ih
            exact .complement hc hNone hAfter (ih c (.head _))
        · rw [Expression.inputs_unary hNot] at ih
          exact .unary hNot hNone hAfter (ih e (.head _))
      | binary op l r =>
        exact .binary hNone hAfter (ih l (.head _)) (ih r (.tail _ (.head _)))
      | between t l u =>
        exact .between hNone hAfter (ih t (.head _)) (ih l (.tail _ (.head _)))
          (ih u (.tail _ (.tail _ (.head _))))
      | member l es =>
        exact .member hNone hAfter (ih l (.head _)) fun e he => ih e (.tail _ he)
      | group op es => exact .group hNone hAfter ih
      | call function es =>
        refine .call hNone hAfter fun hRandom e he => ih e ?_
        rw [Expression.inputs, if_neg hRandom]
        exact he
      | aggregate a => exact .aggregate hNone hAfter

end Variation

end RelPipe
