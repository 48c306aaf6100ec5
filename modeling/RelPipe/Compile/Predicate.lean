import RelPipe.Compile.Expression
import RelPipe.Compile.Filter

/-!
Compiled predicates. A predicate has a native filter when its comparisons are between fields and
constants; otherwise it is matched by its computed value.
-/

namespace RelPipe.Site

set_option autoImplicit false

/-- The filter of a comparison, unless the comparison itself has been grouped. -/
def comparisonFilter? (site : Site) (op : BinaryOp) (l r : Expression) :
    Except CompileError (Option Filter) :=
  match site.grouping.operand? (.binary op l r) with
  | some _ => .ok none
  | none => do
    let left ← site.compile l
    let right ← site.compile r
    .ok (some (.ofComparison op left right))

def operands (site : Site) : List Expression → Except CompileError (List Operand)
  | [] => .ok []
  | e :: rest => do
    let operand ← site.compile e
    let operands ← operands site rest
    .ok (operand :: operands)

def clause (site : Site) (e : Expression) : Option Filter → Except CompileError Filter
  | some f => .ok f
  | none => (site.value e).map Filter.computed

def negated (site : Site) (e : Expression) : Option Filter → Except CompileError Filter
  | some f => .ok (.negation f)
  | none => (site.value e).map fun v => .computed (.apply "$not" [v])

mutual

def filter? (site : Site) (e : Expression) : Except CompileError (Option Filter) :=
  match site.grouping.operand? e with
  | some _ => .ok none
  | none =>
    match e with
    | .binary op l r => if op.isComparison then site.comparisonFilter? op l r else .ok none
    | .group op es => do
      let clauses ← filters site es
      .ok (Filter.ofGroup? op clauses)
    | .between t l h => do
      let test ← site.compile t
      let low ← site.compile l
      let high ← site.compile h
      .ok (some (.ofRange test low high))
    | .member l cs => do
      let left ← site.compile l
      let candidates ← site.operands cs
      .ok (some (.ofMembership left candidates))
    | .unary .not (.unary .not e) => filter? site e
    | .unary .not (.binary op l r) =>
      match op.complement? with
      | some op => site.comparisonFilter? op l r
      | none => do
        let f ← filter? site (.binary op l r)
        (site.negated (.binary op l r) f).map some
    | .unary .not (.between t l h) =>
      match site.grouping.operand? (.group .or [.binary .less t l, .binary .greater t h]) with
      | some _ => .ok none
      | none => do
        let below ← site.clause (.binary .less t l) (← site.comparisonFilter? .less t l)
        let above ← site.clause (.binary .greater t h) (← site.comparisonFilter? .greater t h)
        .ok (Filter.ofGroup? .or [below, above])
    | .unary .not e => do
      let f ← filter? site e
      (site.negated e f).map some
    | _ => .ok none
termination_by structural e

def filters (site : Site) : List Expression → Except CompileError (List Filter)
  | [] => .ok []
  | e :: rest => do
    let f ← site.clause e (← filter? site e)
    let fs ← filters site rest
    .ok (f :: fs)
termination_by structural es => es

end

def filterDocument (site : Site) (e : Expression) : Except CompileError Document := do
  let f ← site.clause e (← site.filter? e)
  .ok f.toDocument

theorem filter?_comparison (site : Site) {op : BinaryOp} (h : op.isComparison = true)
    (l r : Expression) : site.filter? (.binary op l r) = site.comparisonFilter? op l r := by
  rw [filter?, comparisonFilter?]
  cases site.grouping.operand? (.binary op l r) <;> simp [*]

/-- A negation has the filter of the predicate that negates its operand, where there is one. -/
theorem filter?_not_of_complement? {site : Site} {e c : Expression} (hc : e.complement? = some c)
    (hg : site.grouping.operand? (.unary .not e) = none) :
    site.filter? (.unary .not e) = site.filter? c := by
  cases e with
  | unary op e =>
    cases op <;> simp [Expression.complement?] at hc
    subst hc
    rw [filter?, hg]
  | binary op l r =>
    simp only [Expression.complement?, Option.map_eq_some_iff] at hc
    obtain ⟨op', hop, rfl⟩ := hc
    have comparison : op'.isComparison = true := by
      cases op <;> simp [BinaryOp.complement?] at hop <;> subst hop <;> rfl
    rw [filter?_comparison site comparison, filter?, hg]
    simp only [hop]
  | between t l h =>
    simp only [Expression.complement?, Option.some.injEq] at hc
    subst hc
    rw [filter?, filter?, hg]
    have less := filter?_comparison site (show BinaryOp.less.isComparison = true from rfl) t l
    have greater := filter?_comparison site (show BinaryOp.greater.isComparison = true from rfl) t h
    simp only [filters, less, greater]
    cases site.grouping.operand? (.group .or [.binary .less t l, .binary .greater t h]) with
    | some o => rfl
    | none =>
      cases site.comparisonFilter? .less t l with
      | error e => rfl
      | ok f =>
        cases hf : site.clause (.binary .less t l) f with
        | error e => simp [bind, Except.bind, hf]
        | ok below =>
          cases site.comparisonFilter? .greater t h with
          | error e => simp [bind, Except.bind, hf]
          | ok g => cases hg : site.clause (.binary .greater t h) g <;> simp [bind, Except.bind, *]
  | _ => simp [Expression.complement?] at hc

end RelPipe.Site
