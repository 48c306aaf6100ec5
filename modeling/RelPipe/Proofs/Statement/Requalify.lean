import RelPipe.Proofs.CaselessMap
import RelPipe.Proofs.Scoping.Correlations
import RelPipe.Proofs.Scoping.OuterColumns

/-!
Statements with other qualifiers. `requalify` respells the qualifier of every column of a statement,
at any depth, and leaves all else as it is. Where each qualifier is respelled in another letter case
only, nothing that is looked up by name changes: signatures are the same, the same columns are
outer ones, and each column is read from the same path.
-/

namespace RelPipe

set_option autoImplicit false

def ColumnRef.requalify (f : String → String) (c : ColumnRef) : ColumnRef :=
  { c with qualifier := c.qualifier.map f }

mutual

/-- The expression with every qualifier respelled, those of its subqueries included. -/
def Expression.requalify (f : String → String) : Expression → Expression
  | .column c => .column (c.requalify f)
  | .property name => .property name
  | .constant c => .constant c
  | .unary op e => .unary op (e.requalify f)
  | .binary op l r => .binary op (l.requalify f) (r.requalify f)
  | .between t l h => .between (t.requalify f) (l.requalify f) (h.requalify f)
  | .member l cs => .member (l.requalify f) (Expression.requalifyAll f cs)
  | .group op es => .group op (Expression.requalifyAll f es)
  | .call function es => .call function (Expression.requalifyAll f es)
  | .aggregate a => .aggregate (a.requalify f)
termination_by structural e => e

def Expression.requalifyAll (f : String → String) : List Expression → List Expression
  | [] => []
  | e :: rest => e.requalify f :: Expression.requalifyAll f rest
termination_by structural es => es

def Expression.requalifyOption (f : String → String) : Option Expression → Option Expression
  | none => none
  | some e => some (e.requalify f)
termination_by structural e => e

def Aggregate.requalify (f : String → String) : Aggregate → Aggregate
  | ⟨kind, target, statement⟩ =>
    ⟨kind, Expression.requalifyOption f target, Statement.requalifyOption f statement⟩
termination_by structural a => a

def OutputColumn.requalify (f : String → String) : OutputColumn → OutputColumn
  | ⟨e, name⟩ => ⟨e.requalify f, name⟩
termination_by structural o => o

def OutputColumn.requalifyAll (f : String → String) : List OutputColumn → List OutputColumn
  | [] => []
  | o :: rest => o.requalify f :: OutputColumn.requalifyAll f rest
termination_by structural os => os

def SortKey.requalify (f : String → String) : SortKey → SortKey
  | ⟨e, direction⟩ => ⟨e.requalify f, direction⟩
termination_by structural k => k

def SortKey.requalifyAll (f : String → String) : List SortKey → List SortKey
  | [] => []
  | k :: rest => k.requalify f :: SortKey.requalifyAll f rest
termination_by structural ks => ks

def JoinNode.requalify (f : String → String) : JoinNode → JoinNode
  | ⟨table, name, kind, condition, joins⟩ =>
    ⟨table, name, kind, Expression.requalifyOption f condition, JoinNode.requalifyAll f joins⟩
termination_by structural n => n

def JoinNode.requalifyAll (f : String → String) : List JoinNode → List JoinNode
  | [] => []
  | n :: rest => n.requalify f :: JoinNode.requalifyAll f rest
termination_by structural ns => ns

def Statement.requalify (f : String → String) : Statement → Statement
  | ⟨table, name, operands, condition, joins, groupBy, having, sorts, skip, limit⟩ =>
    { table := table
      aliasName := name
      operands := OutputColumn.requalifyAll f operands
      condition := Expression.requalifyOption f condition
      joins := JoinNode.requalifyAll f joins
      groupBy := Expression.requalifyAll f groupBy
      having := Expression.requalifyOption f having
      sorts := SortKey.requalifyAll f sorts
      skip := skip
      limit := limit }
termination_by structural s => s

def Statement.requalifyOption (f : String → String) : Option Statement → Option Statement
  | none => none
  | some s => some (s.requalify f)
termination_by structural s => s

end

section

variable (f : String → String)

theorem Expression.requalifyAll_eq (es : List Expression) :
    requalifyAll f es = es.map (requalify f) := by
  induction es with
  | nil => rfl
  | cons e es ih => rw [requalifyAll, ih, List.map_cons]

theorem Expression.requalifyOption_eq (e : Option Expression) :
    requalifyOption f e = e.map (requalify f) := by
  cases e <;> rfl

theorem Statement.requalifyOption_eq (s : Option Statement) :
    requalifyOption f s = s.map (requalify f) := by
  cases s <;> rfl

theorem OutputColumn.requalifyAll_eq (os : List OutputColumn) :
    requalifyAll f os = os.map (requalify f) := by
  induction os with
  | nil => rfl
  | cons o os ih => rw [requalifyAll, ih, List.map_cons]

theorem SortKey.requalifyAll_eq (ks : List SortKey) :
    requalifyAll f ks = ks.map (requalify f) := by
  induction ks with
  | nil => rfl
  | cons k ks ih => rw [requalifyAll, ih, List.map_cons]

theorem JoinNode.requalifyAll_eq (ns : List JoinNode) :
    requalifyAll f ns = ns.map (requalify f) := by
  induction ns with
  | nil => rfl
  | cons n ns ih => rw [requalifyAll, ih, List.map_cons]

end

section

variable (f : String → String)

@[simp] theorem OutputColumn.expression_requalify (o : OutputColumn) :
    (o.requalify f).expression = o.expression.requalify f := by
  cases o
  rfl

@[simp] theorem OutputColumn.aliasName_requalify (o : OutputColumn) :
    (o.requalify f).aliasName = o.aliasName := by
  cases o
  rfl

@[simp] theorem SortKey.expression_requalify (k : SortKey) :
    (k.requalify f).expression = k.expression.requalify f := by
  cases k
  rfl

@[simp] theorem SortKey.direction_requalify (k : SortKey) :
    (k.requalify f).direction = k.direction := by
  cases k
  rfl

@[simp] theorem Aggregate.kind_requalify (a : Aggregate) : (a.requalify f).kind = a.kind := by
  cases a
  rfl

@[simp] theorem Aggregate.target_requalify (a : Aggregate) :
    (a.requalify f).target = a.target.map (Expression.requalify f) := by
  obtain ⟨kind, target, statement⟩ := a
  exact Expression.requalifyOption_eq f target

@[simp] theorem Aggregate.statement_requalify (a : Aggregate) :
    (a.requalify f).statement = a.statement.map (Statement.requalify f) := by
  obtain ⟨kind, target, statement⟩ := a
  exact Statement.requalifyOption_eq f statement

theorem JoinNode.requalify_eq (n : JoinNode) :
    n.requalify f =
      { n with
        condition := n.condition.map (Expression.requalify f)
        joins := n.joins.map (JoinNode.requalify f) } := by
  obtain ⟨table, name, kind, condition, joins⟩ := n
  simp only [requalify, Expression.requalifyOption_eq, requalifyAll_eq]

theorem Statement.requalify_eq (s : Statement) :
    s.requalify f =
      { s with
        operands := s.operands.map (OutputColumn.requalify f)
        condition := s.condition.map (Expression.requalify f)
        joins := s.joins.map (JoinNode.requalify f)
        groupBy := s.groupBy.map (Expression.requalify f)
        having := s.having.map (Expression.requalify f)
        sorts := s.sorts.map (SortKey.requalify f) } := by
  obtain ⟨table, name, operands, condition, joins, groupBy, having, sorts, skip, limit⟩ := s
  simp only [requalify, OutputColumn.requalifyAll_eq, Expression.requalifyOption_eq,
    JoinNode.requalifyAll_eq, Expression.requalifyAll_eq, SortKey.requalifyAll_eq]

theorem Statement.expressions_requalify (s : Statement) :
    (s.requalify f).expressions = s.expressions.map (Expression.requalify f) := by
  rw [requalify_eq]
  simp only [expressions, List.map_append, List.map_map, Function.comp_def,
    OutputColumn.expression_requalify, SortKey.expression_requalify, Option.toList_map]

end

/-! Respelling one way and then another -/

section

variable (f g : String → String)

theorem ColumnRef.requalify_requalify (c : ColumnRef) :
    (c.requalify f).requalify g = c.requalify (g ∘ f) := by
  simp only [requalify, Option.map_map]

mutual

theorem Expression.requalify_requalify (e : Expression) :
    (e.requalify f).requalify g = e.requalify (g ∘ f) := by
  cases e with
  | column c => exact congrArg Expression.column (c.requalify_requalify f g)
  | property name => rfl
  | constant c => rfl
  | unary op e => simp only [Expression.requalify, e.requalify_requalify]
  | binary op l r =>
    simp only [Expression.requalify, l.requalify_requalify, r.requalify_requalify]
  | between t l h =>
    simp only [Expression.requalify, t.requalify_requalify, l.requalify_requalify,
      h.requalify_requalify]
  | member l cs =>
    simp only [Expression.requalify, l.requalify_requalify, Expression.requalifyAll_requalifyAll cs]
  | group op es => simp only [Expression.requalify, Expression.requalifyAll_requalifyAll es]
  | call function es => simp only [Expression.requalify, Expression.requalifyAll_requalifyAll es]
  | aggregate a => simp only [Expression.requalify, a.requalify_requalify]
termination_by structural e

theorem Expression.requalifyAll_requalifyAll (es : List Expression) :
    Expression.requalifyAll g (Expression.requalifyAll f es) =
      Expression.requalifyAll (g ∘ f) es := by
  cases es with
  | nil => rfl
  | cons e es =>
    simp only [Expression.requalifyAll, e.requalify_requalify,
      Expression.requalifyAll_requalifyAll es]
termination_by structural es

theorem Expression.requalifyOption_requalifyOption (e : Option Expression) :
    Expression.requalifyOption g (Expression.requalifyOption f e) =
      Expression.requalifyOption (g ∘ f) e := by
  cases e with
  | none => rfl
  | some e => simp only [Expression.requalifyOption, e.requalify_requalify]
termination_by structural e

theorem Aggregate.requalify_requalify (a : Aggregate) :
    (a.requalify f).requalify g = a.requalify (g ∘ f) := by
  match a with
  | ⟨kind, target, statement⟩ =>
    simp only [Aggregate.requalify, Expression.requalifyOption_requalifyOption target,
      Statement.requalifyOption_requalifyOption statement]
termination_by structural a

theorem OutputColumn.requalify_requalify (o : OutputColumn) :
    (o.requalify f).requalify g = o.requalify (g ∘ f) := by
  match o with
  | ⟨e, name⟩ => simp only [OutputColumn.requalify, e.requalify_requalify]
termination_by structural o

theorem OutputColumn.requalifyAll_requalifyAll (os : List OutputColumn) :
    OutputColumn.requalifyAll g (OutputColumn.requalifyAll f os) =
      OutputColumn.requalifyAll (g ∘ f) os := by
  cases os with
  | nil => rfl
  | cons o os =>
    simp only [OutputColumn.requalifyAll, o.requalify_requalify,
      OutputColumn.requalifyAll_requalifyAll os]
termination_by structural os

theorem SortKey.requalify_requalify (k : SortKey) :
    (k.requalify f).requalify g = k.requalify (g ∘ f) := by
  match k with
  | ⟨e, direction⟩ => simp only [SortKey.requalify, e.requalify_requalify]
termination_by structural k

theorem SortKey.requalifyAll_requalifyAll (ks : List SortKey) :
    SortKey.requalifyAll g (SortKey.requalifyAll f ks) = SortKey.requalifyAll (g ∘ f) ks := by
  cases ks with
  | nil => rfl
  | cons k ks =>
    simp only [SortKey.requalifyAll, k.requalify_requalify, SortKey.requalifyAll_requalifyAll ks]
termination_by structural ks

theorem JoinNode.requalify_requalify (n : JoinNode) :
    (n.requalify f).requalify g = n.requalify (g ∘ f) := by
  match n with
  | ⟨table, name, kind, condition, joins⟩ =>
    simp only [JoinNode.requalify, Expression.requalifyOption_requalifyOption condition,
      JoinNode.requalifyAll_requalifyAll joins]
termination_by structural n

theorem JoinNode.requalifyAll_requalifyAll (ns : List JoinNode) :
    JoinNode.requalifyAll g (JoinNode.requalifyAll f ns) = JoinNode.requalifyAll (g ∘ f) ns := by
  cases ns with
  | nil => rfl
  | cons n ns =>
    simp only [JoinNode.requalifyAll, n.requalify_requalify, JoinNode.requalifyAll_requalifyAll ns]
termination_by structural ns

theorem Statement.requalify_requalify (s : Statement) :
    (s.requalify f).requalify g = s.requalify (g ∘ f) := by
  match s with
  | ⟨table, name, operands, condition, joins, groupBy, having, sorts, skip, limit⟩ =>
    simp only [Statement.requalify, OutputColumn.requalifyAll_requalifyAll operands,
      Expression.requalifyOption_requalifyOption condition,
      JoinNode.requalifyAll_requalifyAll joins, Expression.requalifyAll_requalifyAll groupBy,
      Expression.requalifyOption_requalifyOption having, SortKey.requalifyAll_requalifyAll sorts]
termination_by structural s

theorem Statement.requalifyOption_requalifyOption (s : Option Statement) :
    Statement.requalifyOption g (Statement.requalifyOption f s) =
      Statement.requalifyOption (g ∘ f) s := by
  cases s with
  | none => rfl
  | some s => simp only [Statement.requalifyOption, s.requalify_requalify]
termination_by structural s

end

end

mutual

theorem Expression.requalify_id (e : Expression) : e.requalify id = e := by
  cases e with
  | column c =>
    obtain ⟨qualifier, name, columnType⟩ := c
    cases qualifier <;> rfl
  | property name => rfl
  | constant c => rfl
  | unary op e => simp only [Expression.requalify, e.requalify_id]
  | binary op l r => simp only [Expression.requalify, l.requalify_id, r.requalify_id]
  | between t l h =>
    simp only [Expression.requalify, t.requalify_id, l.requalify_id, h.requalify_id]
  | member l cs =>
    simp only [Expression.requalify, l.requalify_id, Expression.requalifyAll_id cs]
  | group op es => simp only [Expression.requalify, Expression.requalifyAll_id es]
  | call function es => simp only [Expression.requalify, Expression.requalifyAll_id es]
  | aggregate a => simp only [Expression.requalify, a.requalify_id]
termination_by structural e

theorem Expression.requalifyAll_id (es : List Expression) : Expression.requalifyAll id es = es := by
  cases es with
  | nil => rfl
  | cons e es => simp only [Expression.requalifyAll, e.requalify_id, Expression.requalifyAll_id es]
termination_by structural es

theorem Expression.requalifyOption_id (e : Option Expression) :
    Expression.requalifyOption id e = e := by
  cases e with
  | none => rfl
  | some e => simp only [Expression.requalifyOption, e.requalify_id]
termination_by structural e

theorem Aggregate.requalify_id (a : Aggregate) : a.requalify id = a := by
  match a with
  | ⟨kind, target, statement⟩ =>
    simp only [Aggregate.requalify, Expression.requalifyOption_id target,
      Statement.requalifyOption_id statement]
termination_by structural a

theorem OutputColumn.requalify_id (o : OutputColumn) : o.requalify id = o := by
  match o with
  | ⟨e, name⟩ => simp only [OutputColumn.requalify, e.requalify_id]
termination_by structural o

theorem OutputColumn.requalifyAll_id (os : List OutputColumn) :
    OutputColumn.requalifyAll id os = os := by
  cases os with
  | nil => rfl
  | cons o os =>
    simp only [OutputColumn.requalifyAll, o.requalify_id, OutputColumn.requalifyAll_id os]
termination_by structural os

theorem SortKey.requalify_id (k : SortKey) : k.requalify id = k := by
  match k with
  | ⟨e, direction⟩ => simp only [SortKey.requalify, e.requalify_id]
termination_by structural k

theorem SortKey.requalifyAll_id (ks : List SortKey) : SortKey.requalifyAll id ks = ks := by
  cases ks with
  | nil => rfl
  | cons k ks => simp only [SortKey.requalifyAll, k.requalify_id, SortKey.requalifyAll_id ks]
termination_by structural ks

theorem JoinNode.requalify_id (n : JoinNode) : n.requalify id = n := by
  match n with
  | ⟨table, name, kind, condition, joins⟩ =>
    simp only [JoinNode.requalify, Expression.requalifyOption_id condition,
      JoinNode.requalifyAll_id joins]
termination_by structural n

theorem JoinNode.requalifyAll_id (ns : List JoinNode) : JoinNode.requalifyAll id ns = ns := by
  cases ns with
  | nil => rfl
  | cons n ns => simp only [JoinNode.requalifyAll, n.requalify_id, JoinNode.requalifyAll_id ns]
termination_by structural ns

theorem Statement.requalify_id (s : Statement) : s.requalify id = s := by
  match s with
  | ⟨table, name, operands, condition, joins, groupBy, having, sorts, skip, limit⟩ =>
    simp only [Statement.requalify, OutputColumn.requalifyAll_id operands,
      Expression.requalifyOption_id condition, JoinNode.requalifyAll_id joins,
      Expression.requalifyAll_id groupBy, Expression.requalifyOption_id having,
      SortKey.requalifyAll_id sorts]
termination_by structural s

theorem Statement.requalifyOption_id (s : Option Statement) :
    Statement.requalifyOption id s = s := by
  cases s with
  | none => rfl
  | some s => simp only [Statement.requalifyOption, s.requalify_id]
termination_by structural s

end

/-! Other letter case -/

section

variable {f : String → String}

/-- Respells names in another letter case only. -/
def KeepsCaseless (f : String → String) : Prop := ∀ name, Text.lower (f name) = Text.lower name

theorem ColumnRef.folded_requalify (hf : KeepsCaseless f) (c : ColumnRef) :
    (c.requalify f).folded = c.folded := by
  obtain ⟨qualifier, name, columnType⟩ := c
  cases qualifier with
  | none => rfl
  | some qualifier => simp only [requalify, folded, Option.map_some, hf qualifier]

mutual

theorem Expression.normalized_requalify (hf : KeepsCaseless f) (e : Expression) :
    (e.requalify f).normalized = e.normalized := by
  cases e with
  | column c => exact congrArg Expression.column (c.folded_requalify hf)
  | property name => rfl
  | constant c => rfl
  | unary op e => simp only [Expression.requalify, Expression.normalized, e.normalized_requalify hf]
  | binary op l r =>
    simp only [Expression.requalify, Expression.normalized, l.normalized_requalify hf,
      r.normalized_requalify hf]
  | between t l h =>
    simp only [Expression.requalify, Expression.normalized, t.normalized_requalify hf,
      l.normalized_requalify hf, h.normalized_requalify hf]
  | member l cs =>
    simp only [Expression.requalify, Expression.normalized, l.normalized_requalify hf,
      Expression.normalizedAll_requalifyAll hf cs]
  | group op es =>
    simp only [Expression.requalify, Expression.normalized,
      Expression.normalizedAll_requalifyAll hf es]
  | call function es =>
    simp only [Expression.requalify, Expression.normalized,
      Expression.normalizedAll_requalifyAll hf es]
  | aggregate a =>
    simp only [Expression.requalify, Expression.normalized, a.normalized_requalify hf]
termination_by structural e

theorem Expression.normalizedAll_requalifyAll (hf : KeepsCaseless f) (es : List Expression) :
    Expression.normalizedAll (Expression.requalifyAll f es) = Expression.normalizedAll es := by
  cases es with
  | nil => rfl
  | cons e es =>
    simp only [Expression.requalifyAll, Expression.normalizedAll, e.normalized_requalify hf,
      Expression.normalizedAll_requalifyAll hf es]
termination_by structural es

theorem Expression.normalizedOption_requalifyOption (hf : KeepsCaseless f)
    (e : Option Expression) :
    Expression.normalizedOption (Expression.requalifyOption f e) =
      Expression.normalizedOption e := by
  cases e with
  | none => rfl
  | some e => exact congrArg some (e.normalized_requalify hf)
termination_by structural e

theorem Aggregate.normalized_requalify (hf : KeepsCaseless f) (a : Aggregate) :
    (a.requalify f).normalized = a.normalized := by
  match a with
  | ⟨kind, target, statement⟩ =>
    simp only [Aggregate.requalify, Aggregate.normalized,
      Expression.normalizedOption_requalifyOption hf target,
      Statement.normalizedOption_requalifyOption hf statement]
termination_by structural a

theorem OutputColumn.normalized_requalify (hf : KeepsCaseless f) (o : OutputColumn) :
    (o.requalify f).normalized = o.normalized := by
  match o with
  | ⟨e, name⟩ =>
    simp only [OutputColumn.requalify, OutputColumn.normalized, e.normalized_requalify hf]
termination_by structural o

theorem OutputColumn.normalizedAll_requalifyAll (hf : KeepsCaseless f) (os : List OutputColumn) :
    OutputColumn.normalizedAll (OutputColumn.requalifyAll f os) =
      OutputColumn.normalizedAll os := by
  cases os with
  | nil => rfl
  | cons o os =>
    simp only [OutputColumn.requalifyAll, OutputColumn.normalizedAll, o.normalized_requalify hf,
      OutputColumn.normalizedAll_requalifyAll hf os]
termination_by structural os

theorem SortKey.normalized_requalify (hf : KeepsCaseless f) (k : SortKey) :
    (k.requalify f).normalized = k.normalized := by
  match k with
  | ⟨e, direction⟩ => simp only [SortKey.requalify, SortKey.normalized, e.normalized_requalify hf]
termination_by structural k

theorem SortKey.normalizedAll_requalifyAll (hf : KeepsCaseless f) (ks : List SortKey) :
    SortKey.normalizedAll (SortKey.requalifyAll f ks) = SortKey.normalizedAll ks := by
  cases ks with
  | nil => rfl
  | cons k ks =>
    simp only [SortKey.requalifyAll, SortKey.normalizedAll, k.normalized_requalify hf,
      SortKey.normalizedAll_requalifyAll hf ks]
termination_by structural ks

theorem JoinNode.normalized_requalify (hf : KeepsCaseless f) (n : JoinNode) :
    (n.requalify f).normalized = n.normalized := by
  match n with
  | ⟨table, name, kind, condition, joins⟩ =>
    simp only [JoinNode.requalify, JoinNode.normalized,
      Expression.normalizedOption_requalifyOption hf condition,
      JoinNode.normalizedAll_requalifyAll hf joins]
termination_by structural n

theorem JoinNode.normalizedAll_requalifyAll (hf : KeepsCaseless f) (ns : List JoinNode) :
    JoinNode.normalizedAll (JoinNode.requalifyAll f ns) = JoinNode.normalizedAll ns := by
  cases ns with
  | nil => rfl
  | cons n ns =>
    simp only [JoinNode.requalifyAll, JoinNode.normalizedAll, n.normalized_requalify hf,
      JoinNode.normalizedAll_requalifyAll hf ns]
termination_by structural ns

theorem Statement.normalized_requalify (hf : KeepsCaseless f) (s : Statement) :
    (s.requalify f).normalized = s.normalized := by
  match s with
  | ⟨table, name, operands, condition, joins, groupBy, having, sorts, skip, limit⟩ =>
    simp only [Statement.requalify, Statement.normalized,
      OutputColumn.normalizedAll_requalifyAll hf operands,
      Expression.normalizedOption_requalifyOption hf condition,
      JoinNode.normalizedAll_requalifyAll hf joins,
      Expression.normalizedAll_requalifyAll hf groupBy,
      Expression.normalizedOption_requalifyOption hf having,
      SortKey.normalizedAll_requalifyAll hf sorts]
termination_by structural s

theorem Statement.normalizedOption_requalifyOption (hf : KeepsCaseless f) (s : Option Statement) :
    Statement.normalizedOption (Statement.requalifyOption f s) =
      Statement.normalizedOption s := by
  cases s with
  | none => rfl
  | some s => exact congrArg some (s.normalized_requalify hf)
termination_by structural s

end

theorem Expression.signature_requalify (hf : KeepsCaseless f) (e : Expression) :
    (e.requalify f).signature = e.signature :=
  congrArg Signature.mk (e.normalized_requalify hf)

theorem Aggregate.signature_requalify (hf : KeepsCaseless f) (a : Aggregate) :
    (a.requalify f).signature = a.signature :=
  (Expression.aggregate a).signature_requalify hf

/-! Declared aliases and outer columns -/

mutual

theorem JoinNode.subtree_requalify (n : JoinNode) :
    JoinNode.subtree (n.requalify f) = (JoinNode.subtree n).map (JoinNode.requalify f) := by
  match n with
  | ⟨table, name, kind, condition, joins⟩ =>
    exact congrArg (JoinNode.requalify f ⟨table, name, kind, condition, joins⟩ :: ·)
      (JoinNode.preorder_requalifyAll joins)
termination_by structural n

theorem JoinNode.preorder_requalifyAll (ns : List JoinNode) :
    JoinNode.preorder (JoinNode.requalifyAll f ns) =
      (JoinNode.preorder ns).map (JoinNode.requalify f) := by
  cases ns with
  | nil => rfl
  | cons n ns =>
    simp only [JoinNode.requalifyAll, JoinNode.preorder, List.map_append, n.subtree_requalify,
      JoinNode.preorder_requalifyAll ns]
termination_by structural ns

end

theorem declaredAliases_requalifyAll (root : Option String) (joins : List JoinNode) :
    declaredAliases root (JoinNode.requalifyAll f joins) = declaredAliases root joins := by
  have hAlias : JoinNode.declaredAlias ∘ JoinNode.requalify f = JoinNode.declaredAlias := by
    funext n
    cases n
    rfl
  rw [declaredAliases, JoinNode.preorder_requalifyAll, List.map_map, hAlias, declaredAliases]

theorem ColumnRef.outer_requalify (hf : KeepsCaseless f) (declared : List (CaselessMap Unit))
    (c : ColumnRef) : (c.requalify f).outer declared = (c.outer declared).map (requalify f) := by
  obtain ⟨qualifier, name, columnType⟩ := c
  cases qualifier with
  | none => rfl
  | some qualifier =>
    have hDeclared : (declared.any fun aliases => aliases.contains (f qualifier)) =
        declared.any fun aliases => aliases.contains qualifier := by
      simp only [CaselessMap.contains_congr _ (hf qualifier)]
    simp only [requalify, outer, Option.map_some, hDeclared]
    split <;> rfl

mutual

theorem Expression.outerColumns_requalify (hf : KeepsCaseless f)
    (declared : List (CaselessMap Unit)) (e : Expression) :
    (e.requalify f).outerColumns declared =
      (e.outerColumns declared).map (ColumnRef.requalify f) := by
  cases e with
  | column c => exact c.outer_requalify hf declared
  | property name => rfl
  | constant c => rfl
  | unary op e => exact Expression.outerColumns_requalify hf declared e
  | binary op l r =>
    simp only [Expression.requalify, Expression.outerColumns, List.map_append,
      l.outerColumns_requalify hf declared, r.outerColumns_requalify hf declared]
  | between t l h =>
    simp only [Expression.requalify, Expression.outerColumns, List.map_append,
      t.outerColumns_requalify hf declared, l.outerColumns_requalify hf declared,
      h.outerColumns_requalify hf declared]
  | member l cs =>
    simp only [Expression.requalify, Expression.outerColumns, List.map_append,
      l.outerColumns_requalify hf declared, Expression.outerColumnsAll_requalifyAll hf declared cs]
  | group op es => exact Expression.outerColumnsAll_requalifyAll hf declared es
  | call function es => exact Expression.outerColumnsAll_requalifyAll hf declared es
  | aggregate a => exact Aggregate.outerColumns_requalify hf declared a
termination_by structural e

theorem Expression.outerColumnsAll_requalifyAll (hf : KeepsCaseless f)
    (declared : List (CaselessMap Unit)) (es : List Expression) :
    Expression.outerColumnsAll declared (Expression.requalifyAll f es) =
      (Expression.outerColumnsAll declared es).map (ColumnRef.requalify f) := by
  cases es with
  | nil => rfl
  | cons e es =>
    simp only [Expression.requalifyAll, Expression.outerColumnsAll, List.map_append,
      e.outerColumns_requalify hf declared, Expression.outerColumnsAll_requalifyAll hf declared es]
termination_by structural es

theorem Expression.outerColumnsOption_requalifyOption (hf : KeepsCaseless f)
    (declared : List (CaselessMap Unit)) (e : Option Expression) :
    Expression.outerColumnsOption declared (Expression.requalifyOption f e) =
      (Expression.outerColumnsOption declared e).map (ColumnRef.requalify f) := by
  cases e with
  | none => rfl
  | some e => exact Expression.outerColumns_requalify hf declared e
termination_by structural e

theorem Aggregate.outerColumns_requalify (hf : KeepsCaseless f)
    (declared : List (CaselessMap Unit)) (a : Aggregate) :
    (a.requalify f).outerColumns declared =
      (a.outerColumns declared).map (ColumnRef.requalify f) := by
  match a with
  | ⟨_, target, none⟩ => exact Expression.outerColumnsOption_requalifyOption hf declared target
  | ⟨_, target, some ⟨_, root, operands, condition, joins, groupBy, having, sorts, _, _⟩⟩ =>
    simp only [Aggregate.requalify, Statement.requalifyOption, Statement.requalify,
      Aggregate.outerColumns, List.map_append, declaredAliases_requalifyAll,
      Expression.outerColumnsOption_requalifyOption hf _ target,
      OutputColumn.outerColumnsAll_requalifyAll hf _ operands,
      Expression.outerColumnsOption_requalifyOption hf _ condition,
      Expression.outerColumnsAll_requalifyAll hf _ groupBy,
      Expression.outerColumnsOption_requalifyOption hf _ having,
      SortKey.outerColumnsAll_requalifyAll hf _ sorts,
      JoinNode.outerColumnsAll_requalifyAll hf _ joins]
termination_by structural a

theorem OutputColumn.outerColumnsAll_requalifyAll (hf : KeepsCaseless f)
    (declared : List (CaselessMap Unit)) (os : List OutputColumn) :
    OutputColumn.outerColumnsAll declared (OutputColumn.requalifyAll f os) =
      (OutputColumn.outerColumnsAll declared os).map (ColumnRef.requalify f) := by
  match os with
  | [] => rfl
  | ⟨e, _⟩ :: os =>
    simp only [OutputColumn.requalifyAll, OutputColumn.requalify, OutputColumn.outerColumnsAll,
      List.map_append, e.outerColumns_requalify hf declared,
      OutputColumn.outerColumnsAll_requalifyAll hf declared os]
termination_by structural os

theorem SortKey.outerColumnsAll_requalifyAll (hf : KeepsCaseless f)
    (declared : List (CaselessMap Unit)) (ks : List SortKey) :
    SortKey.outerColumnsAll declared (SortKey.requalifyAll f ks) =
      (SortKey.outerColumnsAll declared ks).map (ColumnRef.requalify f) := by
  match ks with
  | [] => rfl
  | ⟨e, _⟩ :: ks =>
    simp only [SortKey.requalifyAll, SortKey.requalify, SortKey.outerColumnsAll, List.map_append,
      e.outerColumns_requalify hf declared, SortKey.outerColumnsAll_requalifyAll hf declared ks]
termination_by structural ks

theorem JoinNode.outerColumnsAll_requalifyAll (hf : KeepsCaseless f)
    (declared : List (CaselessMap Unit)) (ns : List JoinNode) :
    JoinNode.outerColumnsAll declared (JoinNode.requalifyAll f ns) =
      (JoinNode.outerColumnsAll declared ns).map (ColumnRef.requalify f) := by
  match ns with
  | [] => rfl
  | ⟨_, _, _, condition, joins⟩ :: ns =>
    simp only [JoinNode.requalifyAll, JoinNode.requalify, JoinNode.outerColumnsAll, List.map_append,
      Expression.outerColumnsOption_requalifyOption hf declared condition,
      JoinNode.outerColumnsAll_requalifyAll hf declared joins,
      JoinNode.outerColumnsAll_requalifyAll hf declared ns]
termination_by structural ns

end

/-! Where columns are read from -/

theorem Scope.columnPath_requalify (hf : KeepsCaseless f) (scope : Scope) (c : ColumnRef) :
    scope.columnPath (c.requalify f) = scope.columnPath c := by
  obtain ⟨qualifier, name, columnType⟩ := c
  cases qualifier with
  | none => rfl
  | some qualifier =>
    simp only [ColumnRef.requalify, columnPath, AliasTable.fieldPath, CorrelationKey.of,
      Option.map_some, Option.getD_some, hf qualifier,
      scope.aliases.paths.get?_congr (hf qualifier)]

theorem Correlations.bind_congr (cs : Correlations) {a b : String} (h : Text.lower a = Text.lower b)
    (column : String) (value : Value) : cs.bind a column value = cs.bind b column value := by
  unfold bind CorrelationKey.of
  rw [h]

theorem Correlations.bindColumns_requalify (hf : KeepsCaseless f) {wanted : String → Bool}
    (hWanted : ∀ name, wanted (f name) = wanted name) {path : ColumnRef → String}
    (hPath : ∀ c : ColumnRef, path (c.requalify f) = path c) (cs : Correlations)
    (refs : List ColumnRef) :
    bindColumns wanted path cs (refs.map (ColumnRef.requalify f)) =
      bindColumns wanted path cs refs := by
  unfold bindColumns
  rw [List.foldl_map]
  congr 1
  funext cs c
  rw [hPath]
  obtain ⟨qualifier, name, columnType⟩ := c
  cases qualifier with
  | none => rfl
  | some qualifier =>
    simp only [ColumnRef.requalify, Option.map_some, hWanted, bind_congr _ (hf qualifier)]

theorem Planning.subqueryCorrelations_requalify (hf : KeepsCaseless f) (p : Planning)
    (a : Aggregate) : p.subqueryCorrelations (a.requalify f) = p.subqueryCorrelations a := by
  rw [subqueryCorrelations_eq, subqueryCorrelations_eq, a.outerColumns_requalify hf,
    Correlations.bindColumns_requalify hf (fun _ => rfl) (p.scope.columnPath_requalify hf)]

theorem Planning.joinCorrelations_requalify (hf : KeepsCaseless f) (p : Planning) (field : String)
    (condition : Option Expression) :
    p.joinCorrelations field (Expression.requalifyOption f condition) =
      p.joinCorrelations field condition := by
  have hColumns : (Expression.requalifyOption f condition).toList.flatMap (·.outerColumns []) =
      (condition.toList.flatMap (·.outerColumns [])).map (ColumnRef.requalify f) := by
    cases condition with
    | none => rfl
    | some e => simp [Expression.requalifyOption, e.outerColumns_requalify hf]
  rw [joinCorrelations_eq, joinCorrelations_eq, hColumns]
  refine Correlations.bindColumns_requalify hf (fun name => ?_) (p.scope.columnPath_requalify hf)
    _ _
  rw [AliasTable.contains, CaselessMap.contains_congr _ (hf name), CaselessMap.sameName,
    CaselessMap.sameName, hf name, AliasTable.contains]

end

end RelPipe
