import RelPipe.Statement.Basic

/-!
Equality of expressions and statements is decidable.
-/

namespace RelPipe

set_option autoImplicit false

mutual

def Expression.same : Expression → Expression → Bool
  | .column a, .column b => decide (a = b)
  | .property a, .property b => decide (a = b)
  | .constant a, .constant b => decide (a = b)
  | .unary op a, .unary op' b => decide (op = op') && a.same b
  | .binary op a b, .binary op' c d => decide (op = op') && (a.same c && b.same d)
  | .between a b c, .between d e f => a.same d && (b.same e && c.same f)
  | .member a as, .member b bs => a.same b && Expression.sameAll as bs
  | .group op as, .group op' bs => decide (op = op') && Expression.sameAll as bs
  | .call f as, .call g bs => decide (f = g) && Expression.sameAll as bs
  | .aggregate a, .aggregate b => a.same b
  | _, _ => false
termination_by structural e => e

def Expression.sameAll : List Expression → List Expression → Bool
  | [], [] => true
  | a :: as, b :: bs => a.same b && Expression.sameAll as bs
  | _, _ => false
termination_by structural es => es

def Expression.sameOption : Option Expression → Option Expression → Bool
  | none, none => true
  | some a, some b => a.same b
  | _, _ => false
termination_by structural e => e

def Aggregate.same : Aggregate → Aggregate → Bool
  | ⟨kind, target, statement⟩, ⟨kind', target', statement'⟩ =>
    decide (kind = kind') &&
      (Expression.sameOption target target' && Statement.sameOption statement statement')
termination_by structural a => a

def OutputColumn.same : OutputColumn → OutputColumn → Bool
  | ⟨e, n⟩, ⟨e', n'⟩ => e.same e' && decide (n = n')
termination_by structural o => o

def OutputColumn.sameAll : List OutputColumn → List OutputColumn → Bool
  | [], [] => true
  | a :: as, b :: bs => a.same b && OutputColumn.sameAll as bs
  | _, _ => false
termination_by structural os => os

def SortKey.same : SortKey → SortKey → Bool
  | ⟨e, d⟩, ⟨e', d'⟩ => e.same e' && decide (d = d')
termination_by structural k => k

def SortKey.sameAll : List SortKey → List SortKey → Bool
  | [], [] => true
  | a :: as, b :: bs => a.same b && SortKey.sameAll as bs
  | _, _ => false
termination_by structural ks => ks

def JoinNode.same : JoinNode → JoinNode → Bool
  | ⟨table, name, kind, condition, joins⟩, ⟨table', name', kind', condition', joins'⟩ =>
    decide (table = table') && (decide (name = name') && (decide (kind = kind') &&
      (Expression.sameOption condition condition' && JoinNode.sameAll joins joins')))
termination_by structural n => n

def JoinNode.sameAll : List JoinNode → List JoinNode → Bool
  | [], [] => true
  | a :: as, b :: bs => a.same b && JoinNode.sameAll as bs
  | _, _ => false
termination_by structural ns => ns

def Statement.same : Statement → Statement → Bool
  | ⟨table, name, operands, condition, joins, groupBy, having, sorts, skip, limit⟩,
    ⟨table', name', operands', condition', joins', groupBy', having', sorts', skip', limit'⟩ =>
    decide (table = table') && (decide (name = name') && (OutputColumn.sameAll operands operands' &&
      (Expression.sameOption condition condition' && (JoinNode.sameAll joins joins' &&
        (Expression.sameAll groupBy groupBy' && (Expression.sameOption having having' &&
          (SortKey.sameAll sorts sorts' && (decide (skip = skip') && decide (limit = limit')))))))))
termination_by structural s => s

def Statement.sameOption : Option Statement → Option Statement → Bool
  | none, none => true
  | some a, some b => a.same b
  | _, _ => false
termination_by structural s => s

end

mutual

theorem Expression.same_iff : (a b : Expression) → (a.same b = true ↔ a = b)
  | .column _, b => by cases b <;> simp [Expression.same]
  | .property _, b => by cases b <;> simp [Expression.same]
  | .constant _, b => by cases b <;> simp [Expression.same]
  | .unary _ a, b => by cases b <;> simp [Expression.same, Expression.same_iff a]
  | .binary _ a c, b => by
    cases b <;> simp [Expression.same, Expression.same_iff a, Expression.same_iff c]
  | .between a c d, b => by
    cases b <;>
      simp [Expression.same, Expression.same_iff a, Expression.same_iff c, Expression.same_iff d]
  | .member a as, b => by
    cases b <;> simp [Expression.same, Expression.same_iff a, Expression.sameAll_iff as]
  | .group _ as, b => by cases b <;> simp [Expression.same, Expression.sameAll_iff as]
  | .call _ as, b => by cases b <;> simp [Expression.same, Expression.sameAll_iff as]
  | .aggregate a, b => by cases b <;> simp [Expression.same, Aggregate.same_iff a]
termination_by structural e => e

theorem Expression.sameAll_iff :
    (as bs : List Expression) → (Expression.sameAll as bs = true ↔ as = bs)
  | [], bs => by cases bs <;> simp [Expression.sameAll]
  | a :: as, bs => by
    cases bs <;> simp [Expression.sameAll, Expression.same_iff a, Expression.sameAll_iff as]
termination_by structural es => es

theorem Expression.sameOption_iff :
    (a b : Option Expression) → (Expression.sameOption a b = true ↔ a = b)
  | none, b => by cases b <;> simp [Expression.sameOption]
  | some a, b => by cases b <;> simp [Expression.sameOption, Expression.same_iff a]
termination_by structural e => e

theorem Aggregate.same_iff : (a b : Aggregate) → (a.same b = true ↔ a = b)
  | ⟨_, target, statement⟩, ⟨_, _, _⟩ => by
    simp [Aggregate.same, Expression.sameOption_iff target, Statement.sameOption_iff statement]
termination_by structural a => a

theorem OutputColumn.same_iff : (a b : OutputColumn) → (a.same b = true ↔ a = b)
  | ⟨e, _⟩, ⟨_, _⟩ => by simp [OutputColumn.same, Expression.same_iff e]
termination_by structural o => o

theorem OutputColumn.sameAll_iff :
    (as bs : List OutputColumn) → (OutputColumn.sameAll as bs = true ↔ as = bs)
  | [], bs => by cases bs <;> simp [OutputColumn.sameAll]
  | a :: as, bs => by
    cases bs <;> simp [OutputColumn.sameAll, OutputColumn.same_iff a, OutputColumn.sameAll_iff as]
termination_by structural os => os

theorem SortKey.same_iff : (a b : SortKey) → (a.same b = true ↔ a = b)
  | ⟨e, _⟩, ⟨_, _⟩ => by simp [SortKey.same, Expression.same_iff e]
termination_by structural k => k

theorem SortKey.sameAll_iff : (as bs : List SortKey) → (SortKey.sameAll as bs = true ↔ as = bs)
  | [], bs => by cases bs <;> simp [SortKey.sameAll]
  | a :: as, bs => by
    cases bs <;> simp [SortKey.sameAll, SortKey.same_iff a, SortKey.sameAll_iff as]
termination_by structural ks => ks

theorem JoinNode.same_iff : (a b : JoinNode) → (a.same b = true ↔ a = b)
  | ⟨_, _, _, condition, joins⟩, ⟨_, _, _, _, _⟩ => by
    simp [JoinNode.same, Expression.sameOption_iff condition, JoinNode.sameAll_iff joins]
termination_by structural n => n

theorem JoinNode.sameAll_iff : (as bs : List JoinNode) → (JoinNode.sameAll as bs = true ↔ as = bs)
  | [], bs => by cases bs <;> simp [JoinNode.sameAll]
  | a :: as, bs => by
    cases bs <;> simp [JoinNode.sameAll, JoinNode.same_iff a, JoinNode.sameAll_iff as]
termination_by structural ns => ns

theorem Statement.same_iff : (a b : Statement) → (a.same b = true ↔ a = b)
  | ⟨_, _, operands, condition, joins, groupBy, having, sorts, _, _⟩,
    ⟨_, _, _, _, _, _, _, _, _, _⟩ => by
    simp [Statement.same, OutputColumn.sameAll_iff operands, Expression.sameOption_iff condition,
      JoinNode.sameAll_iff joins, Expression.sameAll_iff groupBy, Expression.sameOption_iff having,
      SortKey.sameAll_iff sorts]
termination_by structural s => s

theorem Statement.sameOption_iff :
    (a b : Option Statement) → (Statement.sameOption a b = true ↔ a = b)
  | none, b => by cases b <;> simp [Statement.sameOption]
  | some a, b => by cases b <;> simp [Statement.sameOption, Statement.same_iff a]
termination_by structural s => s

end

instance : DecidableEq Expression := fun a b => decidable_of_iff _ (Expression.same_iff a b)

instance : DecidableEq Aggregate := fun a b => decidable_of_iff _ (Aggregate.same_iff a b)

instance : DecidableEq Statement := fun a b => decidable_of_iff _ (Statement.same_iff a b)

end RelPipe
