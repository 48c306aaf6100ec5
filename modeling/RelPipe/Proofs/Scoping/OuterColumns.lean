import RelPipe.Compile.OuterColumn

/-!
The columns that a nested statement takes from outside, against the statements around it. What is
outer to several statements is what is outer to the innermost and declared by none of the others.
-/

namespace RelPipe

set_option autoImplicit false

/-- Whether none of the statements declares the qualifier of a column. -/
def ColumnRef.isFree (declared : List (CaselessMap Unit)) (ref : ColumnRef) : Bool :=
  match ref.qualifier with
  | some qualifier => !declared.any fun aliases => aliases.contains qualifier
  | none => true

theorem ColumnRef.outer_append (inner outer : List (CaselessMap Unit)) (ref : ColumnRef) :
    ref.outer (inner ++ outer) = (ref.outer inner).filter (isFree outer) := by
  unfold ColumnRef.outer
  cases hQualifier : ref.qualifier with
  | none => rfl
  | some qualifier =>
    simp only [List.any_append]
    cases hInner : inner.any fun aliases => aliases.contains qualifier with
    | true => simp
    | false =>
      cases hOuter : outer.any fun aliases => aliases.contains qualifier <;>
        simp [isFree, hQualifier, hOuter]

section

variable {outer : List (CaselessMap Unit)}

mutual

theorem Expression.outerColumns_append (inner : List (CaselessMap Unit)) (e : Expression) :
    e.outerColumns (inner ++ outer) = (e.outerColumns inner).filter (ColumnRef.isFree outer) := by
  cases e with
  | column ref => exact ref.outer_append inner outer
  | property name => rfl
  | constant c => rfl
  | unary op e => exact Expression.outerColumns_append inner e
  | binary op l r =>
    simp only [Expression.outerColumns, List.filter_append, Expression.outerColumns_append inner l,
      Expression.outerColumns_append inner r]
  | between t l h =>
    simp only [Expression.outerColumns, List.filter_append, Expression.outerColumns_append inner t,
      Expression.outerColumns_append inner l, Expression.outerColumns_append inner h]
  | member l cs =>
    simp only [Expression.outerColumns, List.filter_append, Expression.outerColumns_append inner l,
      Expression.outerColumnsAll_append inner cs]
  | group op es => exact Expression.outerColumnsAll_append inner es
  | call f es => exact Expression.outerColumnsAll_append inner es
  | aggregate a => exact Aggregate.outerColumns_append inner a
termination_by structural e

theorem Expression.outerColumnsAll_append (inner : List (CaselessMap Unit)) (es : List Expression) :
    Expression.outerColumnsAll (inner ++ outer) es =
      (Expression.outerColumnsAll inner es).filter (ColumnRef.isFree outer) := by
  cases es with
  | nil => rfl
  | cons e es =>
    simp only [Expression.outerColumnsAll, List.filter_append, Expression.outerColumns_append inner e,
      Expression.outerColumnsAll_append inner es]
termination_by structural es

theorem Expression.outerColumnsOption_append (inner : List (CaselessMap Unit)) (e : Option Expression) :
    Expression.outerColumnsOption (inner ++ outer) e =
      (Expression.outerColumnsOption inner e).filter (ColumnRef.isFree outer) := by
  cases e with
  | none => rfl
  | some e => exact Expression.outerColumns_append inner e
termination_by structural e

theorem Aggregate.outerColumns_append (inner : List (CaselessMap Unit)) (a : Aggregate) :
    a.outerColumns (inner ++ outer) = (a.outerColumns inner).filter (ColumnRef.isFree outer) := by
  match a with
  | ⟨_, target, none⟩ => exact Expression.outerColumnsOption_append inner target
  | ⟨_, target, some ⟨_, root, operands, condition, joins, groupBy, having, sorts, _, _⟩⟩ =>
    have hScope : declaredAliases root joins :: (inner ++ outer) =
        declaredAliases root joins :: inner ++ outer := rfl
    simp only [Aggregate.outerColumns, List.filter_append, hScope,
      Expression.outerColumnsOption_append _ target, OutputColumn.outerColumnsAll_append _ operands,
      Expression.outerColumnsOption_append _ condition, Expression.outerColumnsAll_append _ groupBy,
      Expression.outerColumnsOption_append _ having, SortKey.outerColumnsAll_append _ sorts,
      JoinNode.outerColumnsAll_append _ joins]
termination_by structural a

theorem OutputColumn.outerColumnsAll_append (inner : List (CaselessMap Unit))
    (os : List OutputColumn) :
    OutputColumn.outerColumnsAll (inner ++ outer) os =
      (OutputColumn.outerColumnsAll inner os).filter (ColumnRef.isFree outer) := by
  match os with
  | [] => rfl
  | ⟨e, _⟩ :: os =>
    simp only [OutputColumn.outerColumnsAll, List.filter_append,
      Expression.outerColumns_append inner e, OutputColumn.outerColumnsAll_append inner os]
termination_by structural os

theorem SortKey.outerColumnsAll_append (inner : List (CaselessMap Unit)) (ks : List SortKey) :
    SortKey.outerColumnsAll (inner ++ outer) ks =
      (SortKey.outerColumnsAll inner ks).filter (ColumnRef.isFree outer) := by
  match ks with
  | [] => rfl
  | ⟨e, _⟩ :: ks =>
    simp only [SortKey.outerColumnsAll, List.filter_append, Expression.outerColumns_append inner e,
      SortKey.outerColumnsAll_append inner ks]
termination_by structural ks

theorem JoinNode.outerColumnsAll_append (inner : List (CaselessMap Unit)) (ns : List JoinNode) :
    JoinNode.outerColumnsAll (inner ++ outer) ns =
      (JoinNode.outerColumnsAll inner ns).filter (ColumnRef.isFree outer) := by
  match ns with
  | [] => rfl
  | ⟨_, _, _, condition, joins⟩ :: ns =>
    simp only [JoinNode.outerColumnsAll, List.filter_append,
      Expression.outerColumnsOption_append inner condition, JoinNode.outerColumnsAll_append inner joins,
      JoinNode.outerColumnsAll_append inner ns]
termination_by structural ns

end

end

def Expression.localChildren : Expression → List Expression
  | .aggregate ⟨_, target, none⟩ => target.toList
  | .aggregate ⟨_, _, some _⟩ => []
  | e => e.children

/-- The parts of an expression that belong to the same statement. Those of a subquery do not. -/
inductive Expression.LocalPart : Expression → Expression → Prop where
  | self (e : Expression) : LocalPart e e
  | child {q c e : Expression} (hc : c ∈ e.localChildren) (h : LocalPart q c) : LocalPart q e

theorem Expression.LocalPart.trans {p q e : Expression} (h : p.LocalPart q) (h' : q.LocalPart e) :
    p.LocalPart e := by
  induction h' with
  | self => exact h
  | child hc _ ih => exact .child hc ih

theorem ColumnRef.eq_of_mem_outer {declared : List (CaselessMap Unit)} {ref a : ColumnRef}
    (h : ref ∈ a.outer declared) : ref = a := by
  unfold ColumnRef.outer at h
  split at h
  · split at h
    · cases h
    · exact List.mem_singleton.mp h
  · cases h

theorem Expression.exists_of_mem_outerColumnsAll {declared : List (CaselessMap Unit)}
    {es : List Expression} {ref : ColumnRef} (h : ref ∈ Expression.outerColumnsAll declared es) :
    ∃ e ∈ es, ref ∈ e.outerColumns declared := by
  induction es with
  | nil => cases h
  | cons e es ih =>
    rw [Expression.outerColumnsAll, List.mem_append] at h
    obtain h | h := h
    · exact ⟨e, .head _, h⟩
    · obtain ⟨e', he', h⟩ := ih h
      exact ⟨e', .tail _ he', h⟩

theorem Expression.subset_outerColumnsAll {declared : List (CaselessMap Unit)} {e : Expression}
    {es : List Expression} (he : e ∈ es) :
    e.outerColumns declared ⊆ Expression.outerColumnsAll declared es := by
  induction es with
  | nil => cases he
  | cons e' es ih =>
    rw [Expression.outerColumnsAll]
    cases he with
    | head => exact List.subset_append_left _ _
    | tail _ he => exact List.subset_append_of_subset_right _ (ih he)

theorem Expression.outerColumnsAll_localChildren (declared : List (CaselessMap Unit))
    (e : Expression) :
    Expression.outerColumnsAll declared e.localChildren ⊆ e.outerColumns declared := by
  cases e with
  | aggregate a =>
    match a with
    | ⟨_, none, none⟩ => exact List.nil_subset _
    | ⟨_, some target, none⟩ =>
      simp [localChildren, outerColumnsAll, outerColumns, Aggregate.outerColumns,
        outerColumnsOption]
    | ⟨_, _, some _⟩ => exact List.nil_subset _
  | _ => simp [localChildren, children, outerColumnsAll, outerColumns]

theorem Expression.outerColumns_child {declared : List (CaselessMap Unit)} {c e : Expression}
    (hc : c ∈ e.localChildren) : c.outerColumns declared ⊆ e.outerColumns declared :=
  List.Subset.trans (subset_outerColumnsAll hc) (outerColumnsAll_localChildren declared e)

theorem Expression.LocalPart.outerColumns_subset {declared : List (CaselessMap Unit)}
    {q e : Expression} (h : q.LocalPart e) : q.outerColumns declared ⊆ e.outerColumns declared := by
  induction h with
  | self => exact List.Subset.refl _
  | child hc _ ih => exact List.Subset.trans ih (Expression.outerColumns_child hc)

theorem OutputColumn.outerColumnsAll_eq (declared : List (CaselessMap Unit))
    (os : List OutputColumn) :
    OutputColumn.outerColumnsAll declared os =
      Expression.outerColumnsAll declared (os.map (·.expression)) := by
  induction os with
  | nil => rfl
  | cons o os ih =>
    obtain ⟨e, name⟩ := o
    rw [OutputColumn.outerColumnsAll, ih, List.map_cons, Expression.outerColumnsAll]

theorem SortKey.outerColumnsAll_eq (declared : List (CaselessMap Unit)) (ks : List SortKey) :
    SortKey.outerColumnsAll declared ks =
      Expression.outerColumnsAll declared (ks.map (·.expression)) := by
  induction ks with
  | nil => rfl
  | cons k ks ih =>
    obtain ⟨e, direction⟩ := k
    rw [SortKey.outerColumnsAll, ih, List.map_cons, Expression.outerColumnsAll]

theorem Expression.outerColumnsOption_eq (declared : List (CaselessMap Unit))
    (e : Option Expression) :
    Expression.outerColumnsOption declared e = Expression.outerColumnsAll declared e.toList := by
  cases e with
  | none => rfl
  | some e => rw [outerColumnsOption, Option.toList, outerColumnsAll, outerColumnsAll,
      List.append_nil]

theorem Expression.outerColumnsAll_concat (declared : List (CaselessMap Unit))
    (es fs : List Expression) :
    Expression.outerColumnsAll declared (es ++ fs) =
      Expression.outerColumnsAll declared es ++ Expression.outerColumnsAll declared fs := by
  induction es with
  | nil => rfl
  | cons e es ih =>
    rw [List.cons_append, outerColumnsAll, ih, outerColumnsAll, List.append_assoc]

def Statement.declared (s : Statement) : CaselessMap Unit := declaredAliases s.aliasName s.joins

/-- The outer columns of a subquery: those of its target and of the expressions of its statement,
and those of its join conditions. -/
theorem Aggregate.outerColumns_subquery (declared : List (CaselessMap Unit)) (kind : AggregateKind)
    (target : Option Expression) (s : Statement) :
    Aggregate.outerColumns declared ⟨kind, target, some s⟩ =
      Expression.outerColumnsAll (s.declared :: declared) (target.toList ++ s.expressions) ++
        JoinNode.outerColumnsAll (s.declared :: declared) s.joins := by
  obtain ⟨_, root, operands, condition, joins, groupBy, having, sorts, _, _⟩ := s
  simp only [Aggregate.outerColumns, Statement.declared, Statement.expressions,
    Expression.outerColumnsAll_concat, OutputColumn.outerColumnsAll_eq, SortKey.outerColumnsAll_eq,
    Expression.outerColumnsOption_eq, List.append_assoc]

theorem Aggregate.isFree_of_mem_outerColumns {kind : AggregateKind} {target : Option Expression}
    {s : Statement} {ref : ColumnRef}
    (h : ref ∈ Aggregate.outerColumns [] ⟨kind, target, some s⟩) :
    ref.isFree [s.declared] = true := by
  have hScope : [s.declared] = [] ++ [s.declared] := rfl
  rw [Aggregate.outerColumns_subquery, hScope, Expression.outerColumnsAll_append,
    JoinNode.outerColumnsAll_append, ← List.filter_append] at h
  exact (List.mem_filter.mp h).2

theorem Aggregate.mem_outerColumns_of_localPart {kind : AggregateKind} {target : Option Expression}
    {s : Statement} {e q : Expression} (he : e ∈ target.toList ++ s.expressions)
    (hq : q.LocalPart e) {ref : ColumnRef} (hRef : ref ∈ q.outerColumns [])
    (hFree : ref.isFree [s.declared] = true) :
    ref ∈ Aggregate.outerColumns [] ⟨kind, target, some s⟩ := by
  have hPart : ref ∈ q.outerColumns [s.declared] := by
    have hScope : [s.declared] = [] ++ [s.declared] := rfl
    rw [hScope, Expression.outerColumns_append]
    exact List.mem_filter.mpr ⟨hRef, hFree⟩
  rw [Aggregate.outerColumns_subquery]
  exact List.mem_append_left _ (Expression.subset_outerColumnsAll he (hq.outerColumns_subset hPart))

theorem ColumnRef.mem_outerColumns {ref : ColumnRef} {qualifier : String}
    (h : ref.qualifier = some qualifier) : ref ∈ (Expression.column ref).outerColumns [] := by
  rw [Expression.outerColumns, outer, h]
  exact List.mem_singleton.mpr rfl

theorem ColumnRef.isFree_iff {ref : ColumnRef} {qualifier : String}
    (h : ref.qualifier = some qualifier) {aliases : CaselessMap Unit} :
    ref.isFree [aliases] = true ↔ aliases.contains qualifier = false := by
  rw [isFree, h]
  simp

end RelPipe
