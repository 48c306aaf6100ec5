import RelPipe.Statement.Basic

/-!
The parts of an expression at any depth, and the pairs of operands that are tested for their order
somewhere in it.
-/

namespace RelPipe.Expression

set_option autoImplicit false

/-- The parts of an expression: itself and the parts of its direct parts. -/
inductive Part : Expression → Expression → Prop where
  | self (e : Expression) : Part e e
  | child {q c e : Expression} (hc : c ∈ e.children) (h : Part q c) : Part q e

theorem sizeOf_child_lt {e c : Expression} (hc : c ∈ e.children) :
    sizeOf c < sizeOf e := by
  cases e with
  | unary op e =>
    obtain rfl := List.mem_singleton.mp hc
    simp only [unary.sizeOf_spec]
    omega
  | binary op l r =>
    have hCases : c = l ∨ c = r := by simpa [children] using hc
    obtain rfl | rfl := hCases <;> simp only [binary.sizeOf_spec] <;> omega
  | between t l h =>
    have hCases : c = t ∨ c = l ∨ c = h := by simpa [children] using hc
    obtain rfl | rfl | rfl := hCases <;> simp only [between.sizeOf_spec] <;> omega
  | member l cs =>
    have hSize := List.sizeOf_lt_of_mem hc
    simp only [children, member.sizeOf_spec, List.cons.sizeOf_spec] at hSize ⊢
    omega
  | group op es =>
    have hSize := List.sizeOf_lt_of_mem hc
    simp only [children, group.sizeOf_spec] at hSize ⊢
    omega
  | call f es =>
    have hSize := List.sizeOf_lt_of_mem hc
    simp only [children, call.sizeOf_spec] at hSize ⊢
    omega
  | aggregate a =>
    obtain ⟨kind, target, statement⟩ := a
    obtain rfl : target = some c := by simpa [children] using hc
    simp only [aggregate.sizeOf_spec, Aggregate.mk.sizeOf_spec, Option.some.sizeOf_spec]
    omega
  | _ => cases hc

theorem Part.sizeOf_le {q e : Expression} (h : q.Part e) : sizeOf q ≤ sizeOf e := by
  induction h with
  | self => exact Nat.le_refl _
  | child hc _ ih => exact Nat.le_trans ih (Nat.le_of_lt (sizeOf_child_lt hc))

/-- Induction on an expression with its proper parts at any depth. -/
theorem part_induction {P : Expression → Prop}
    (step : ∀ e : Expression, (∀ c ∈ e.children, ∀ q : Expression, q.Part c → P q) → P e)
    (e : Expression) : P e := by
  induction hSize : sizeOf e using Nat.strongRecOn generalizing e with
  | ind n ih =>
    refine step e fun c hc q hq => ih (sizeOf q) ?_ q rfl
    have hPart := hq.sizeOf_le
    have hChild := sizeOf_child_lt hc
    omega

/-- The pairs of operands that a predicate itself tests for their order. -/
inductive Orders : Expression → Expression → Expression → Prop where
  | inequality {op : BinaryOp} (hop : op.isInequality = true) (l r : Expression) :
    Orders (.binary op l r) l r
  | low (t l h : Expression) : Orders (.between t l h) t l
  | high (t l h : Expression) : Orders (.between t l h) t h

/-- A relation holds between the operands of every order test in an expression. -/
def EveryOrder (R : Expression → Expression → Prop) (e : Expression) : Prop :=
  ∀ q l r : Expression, q.Part e → q.Orders l r → R l r

theorem everyOrder_iff {R : Expression → Expression → Prop} {e : Expression} :
    e.EveryOrder R ↔ (∀ l r, e.Orders l r → R l r) ∧ ∀ c ∈ e.children, c.EveryOrder R := by
  constructor
  · intro h
    exact ⟨fun l r hOrders => h e l r (.self e) hOrders,
      fun c hc q l r hq hOrders => h q l r (.child hc hq) hOrders⟩
  · rintro ⟨hSelf, hChildren⟩ q l r hq hOrders
    cases hq with
    | self => exact hSelf l r hOrders
    | child hc hq => exact hChildren _ hc q l r hq hOrders

theorem EveryOrder.below {R : Expression → Expression → Prop} {e c : Expression}
    (h : e.EveryOrder R) (hc : c ∈ e.children) : c.EveryOrder R :=
  (everyOrder_iff.mp h).2 c hc

theorem EveryOrder.self {R : Expression → Expression → Prop} {e l r : Expression}
    (h : e.EveryOrder R) (hOrders : e.Orders l r) : R l r :=
  (everyOrder_iff.mp h).1 l r hOrders

end RelPipe.Expression
