import RelPipe.Proofs.Scoping.JoinConditions

/-!
The subqueries of a statement at any depth. A statement holds the subqueries of its expressions and
of its join conditions; each has a statement of its own, which is smaller.
-/

namespace RelPipe

set_option autoImplicit false

/-- The subqueries of a statement, those of its join conditions among them. -/
def Statement.Holds (s : Statement) (a : Aggregate) : Prop :=
  s.HasSubquery a ∨ ∃ node ∈ s.joinNodes, ∃ e, node.condition = some e ∧ e.HasSubquery a

/-- The subqueries of a statement and of the statements of these, at any depth. -/
inductive Statement.Nests : Statement → Aggregate → Prop where
  | own {s : Statement} {a : Aggregate} (h : s.Holds a) : Nests s a
  | inner {s t : Statement} {a b : Aggregate} (h : s.Holds a) (hStatement : a.statement = some t)
    (hInner : Nests t b) : Nests s b

theorem Statement.mem_expressions {s : Statement} {e : Expression} :
    e ∈ s.expressions ↔ (∃ o ∈ s.operands, o.expression = e) ∨ s.condition = some e ∨
      e ∈ s.groupBy ∨ s.having = some e ∨ ∃ k ∈ s.sorts, k.expression = e := by
  simp only [expressions, List.mem_append, List.mem_map, Option.mem_toList, or_assoc]

theorem Expression.LocalPart.sizeOf_le {q e : Expression} (h : q.LocalPart e) :
    sizeOf q ≤ sizeOf e := by
  induction h with
  | self => exact Nat.le_refl _
  | child hc _ ih =>
    exact Nat.le_trans ih (Nat.le_of_lt (sizeOf_child_lt (mem_children_of_mem_localChildren hc)))

theorem Expression.HasSubquery.sizeOf_lt {e : Expression} {a : Aggregate} {t : Statement}
    (h : e.HasSubquery a) (hStatement : a.statement = some t) : sizeOf t < sizeOf e := by
  have hSize := h.sizeOf_le
  obtain ⟨kind, target, _⟩ := a
  cases hStatement
  simp only [aggregate.sizeOf_spec, Aggregate.mk.sizeOf_spec, Option.some.sizeOf_spec] at hSize
  omega

theorem Statement.sizeOf_expression_lt {s : Statement} {e : Expression} (h : e ∈ s.expressions) :
    sizeOf e < sizeOf s := by
  rw [mem_expressions] at h
  obtain ⟨table, aliasName, operands, condition, joins, groupBy, having, sorts, skip, limit⟩ := s
  simp only [mk.sizeOf_spec] at h ⊢
  obtain ⟨o, ho, rfl⟩ | h | h | h | ⟨k, hk, rfl⟩ := h
  · have hSize := List.sizeOf_lt_of_mem ho
    obtain ⟨e, name⟩ := o
    simp only [OutputColumn.mk.sizeOf_spec] at hSize ⊢
    omega
  · cases h
    simp only [Option.some.sizeOf_spec]
    omega
  · have hSize := List.sizeOf_lt_of_mem h
    omega
  · cases h
    simp only [Option.some.sizeOf_spec]
    omega
  · have hSize := List.sizeOf_lt_of_mem hk
    obtain ⟨e, direction⟩ := k
    simp only [SortKey.mk.sizeOf_spec] at hSize ⊢
    omega

theorem JoinNode.sizeOf_condition_lt {n : JoinNode} {e : Expression} (he : n.condition = some e) :
    ∀ {ns : List JoinNode}, n ∈ preorder ns → sizeOf e < sizeOf ns
  | [], hn => by cases hn
  | ⟨table, aliasName, kind, condition, joins⟩ :: rest, hn => by
    simp only [List.cons.sizeOf_spec, mk.sizeOf_spec]
    obtain rfl | hn | hn := mem_preorder_cons.mp hn
    · cases he
      simp only [Option.some.sizeOf_spec]
      omega
    · have hSize : sizeOf e < sizeOf joins := sizeOf_condition_lt he hn
      omega
    · have hSize := sizeOf_condition_lt he hn
      omega

theorem Statement.Holds.sizeOf_lt {s t : Statement} {a : Aggregate} (h : s.Holds a)
    (hStatement : a.statement = some t) : sizeOf t < sizeOf s := by
  obtain ⟨e, he, ha⟩ | ⟨node, hNode, e, he, ha⟩ := h
  · exact Nat.lt_trans (ha.sizeOf_lt hStatement) (sizeOf_expression_lt he)
  · obtain ⟨table, aliasName, operands, condition, joins, groupBy, having, sorts, skip, limit⟩ := s
    have hSize : sizeOf t < sizeOf joins :=
      Nat.lt_trans (ha.sizeOf_lt hStatement) (JoinNode.sizeOf_condition_lt he hNode)
    simp only [mk.sizeOf_spec]
    omega

/-- Induction on a statement with the statements of the subqueries that it holds. -/
theorem Statement.holds_induction {P : Statement → Prop}
    (step : ∀ s : Statement, (∀ a t, s.Holds a → a.statement = some t → P t) → P s)
    (s : Statement) : P s := by
  induction hSize : sizeOf s using Nat.strongRecOn generalizing s with
  | ind n ih =>
    refine step s fun a t ha ht => ih (sizeOf t) ?_ t rfl
    exact hSize ▸ ha.sizeOf_lt ht

end RelPipe
