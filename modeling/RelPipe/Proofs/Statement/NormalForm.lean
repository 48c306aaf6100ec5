import RelPipe.Proofs.Statement.ColumnNames
import RelPipe.Proofs.Text.Lowered
import RelPipe.Statement.Signature

/-!
Signatures of signatures. The expression of a signature has that same signature if and only if no
marker is left in the normal form of any name in the expression, at any depth: lower-casing neither
adds nor removes marks, and all else that is folded is folded for good.
-/

namespace RelPipe

set_option autoImplicit false

/-! Folded names -/

namespace ColumnName

theorem Tidy.lowerFrom {cs : List Char} (h : Tidy cs) (before : List Char) :
    Tidy (Text.lowerFrom before cs) where
  comma := mt (Text.mem_lowerFrom_iff (by decide) before cs).mp h.comma
  backslash := mt (Text.mem_lowerFrom_iff (by decide) before cs).mp h.backslash
  start := mt (Text.head?_lowerFrom_eq_iff (by decide) before cs).mp h.start
  finish := mt (Text.getLast?_lowerFrom_eq_iff (by decide) before cs).mp h.finish

theorem marker_infix_lowerFrom_iff (before cs : List Char) :
    marker <:+: Text.lowerFrom before cs ↔ marker <:+: cs :=
  Text.pair_infix_lowerFrom_iff (by decide) (by decide) before cs

/-- What normalization leaves of a lower-case text is lower-case. -/
theorem lower_normalize_lower (s : String) :
    Text.lower (normalize (Text.lower s)) = normalize (Text.lower s) := by
  refine Text.lower_of_lowered fun c hc => ?_
  rw [toList_normalize] at hc
  have hMem := (normalizeChars_sublist _).subset hc
  rw [Text.lower, String.toList_ofList] at hMem
  exact Text.lowered_of_mem_lowerFrom hMem

end ColumnName

theorem foldName_foldName_iff (name : String) :
    foldName (foldName name) = foldName name ↔ ¬ ColumnName.KeepsMarker name := by
  have hTidy : ColumnName.Tidy (Text.lower (ColumnName.normalize name)).toList := by
    rw [Text.lower, String.toList_ofList]
    exact (ColumnName.tidy_normalize name).lowerFrom []
  rw [foldName, foldName, ColumnName.lower_normalize_lower,
    ColumnName.normalize_eq_self_iff hTidy, Text.lower, String.toList_ofList,
    ColumnName.marker_infix_lowerFrom_iff, ColumnName.marker_infix_normalize_iff]

theorem Function.folded_folded (f : Function) : f.folded.folded = f.folded := by
  cases f with
  | custom tag => exact congrArg Function.custom (Text.lower_lower tag)
  | _ => rfl

theorem AggregateKind.folded_folded (kind : AggregateKind) : kind.folded.folded = kind.folded := by
  cases kind with
  | custom name => exact congrArg AggregateKind.custom (Text.lower_lower name)
  | _ => rfl

theorem map_lower_map_lower (name : Option String) :
    (name.map Text.lower).map Text.lower = name.map Text.lower := by
  cases name with
  | none => rfl
  | some name => exact congrArg some (Text.lower_lower name)

theorem ColumnRef.folded_folded_iff (c : ColumnRef) :
    c.folded.folded = c.folded ↔ ¬ ColumnName.KeepsMarker c.name := by
  rw [← foldName_foldName_iff]
  simp only [folded, ColumnRef.mk.injEq, map_lower_map_lower, true_and, and_true]

/-! The names in an expression -/

mutual

def Expression.columnNames : Expression → List String
  | .column c => [c.name]
  | .property name => [name]
  | .constant _ => []
  | .unary _ e => e.columnNames
  | .binary _ l r => l.columnNames ++ r.columnNames
  | .between t l h => t.columnNames ++ l.columnNames ++ h.columnNames
  | .member l cs => l.columnNames ++ Expression.columnNamesAll cs
  | .group _ es => Expression.columnNamesAll es
  | .call _ es => Expression.columnNamesAll es
  | .aggregate a => a.columnNames
termination_by structural e => e

def Expression.columnNamesAll : List Expression → List String
  | [] => []
  | e :: rest => e.columnNames ++ Expression.columnNamesAll rest
termination_by structural es => es

def Expression.columnNamesOption : Option Expression → List String
  | none => []
  | some e => e.columnNames
termination_by structural e => e

def Aggregate.columnNames : Aggregate → List String
  | ⟨_, target, statement⟩ =>
    Expression.columnNamesOption target ++ Statement.columnNamesOption statement
termination_by structural a => a

def OutputColumn.columnNames : OutputColumn → List String
  | ⟨e, _⟩ => e.columnNames
termination_by structural o => o

def OutputColumn.columnNamesAll : List OutputColumn → List String
  | [] => []
  | o :: rest => o.columnNames ++ OutputColumn.columnNamesAll rest
termination_by structural os => os

def SortKey.columnNames : SortKey → List String
  | ⟨e, _⟩ => e.columnNames
termination_by structural k => k

def SortKey.columnNamesAll : List SortKey → List String
  | [] => []
  | k :: rest => k.columnNames ++ SortKey.columnNamesAll rest
termination_by structural ks => ks

def JoinNode.columnNames : JoinNode → List String
  | ⟨_, _, _, condition, joins⟩ =>
    Expression.columnNamesOption condition ++ JoinNode.columnNamesAll joins
termination_by structural n => n

def JoinNode.columnNamesAll : List JoinNode → List String
  | [] => []
  | n :: rest => n.columnNames ++ JoinNode.columnNamesAll rest
termination_by structural ns => ns

def Statement.columnNames : Statement → List String
  | ⟨_, _, operands, condition, joins, groupBy, having, sorts, _, _⟩ =>
    OutputColumn.columnNamesAll operands ++ Expression.columnNamesOption condition ++
      JoinNode.columnNamesAll joins ++ Expression.columnNamesAll groupBy ++
      Expression.columnNamesOption having ++ SortKey.columnNamesAll sorts
termination_by structural s => s

def Statement.columnNamesOption : Option Statement → List String
  | none => []
  | some s => s.columnNames
termination_by structural s => s

end

namespace ColumnName

/-- No marker is left in the normal form of any of the names. -/
def Settled (names : List String) : Prop := ∀ name ∈ names, ¬ KeepsMarker name

@[simp] theorem settled_nil : Settled [] := by
  simp [Settled]

@[simp] theorem settled_singleton (name : String) : Settled [name] ↔ ¬ KeepsMarker name := by
  simp [Settled]

@[simp] theorem settled_append (names names' : List String) :
    Settled (names ++ names') ↔ Settled names ∧ Settled names' := by
  simp [Settled, or_imp, forall_and]

end ColumnName

open ColumnName (Settled settled_nil settled_singleton settled_append)

mutual

theorem Expression.normalized_normalized_iff (e : Expression) :
    e.normalized.normalized = e.normalized ↔ Settled e.columnNames := by
  cases e with
  | column c =>
    simp only [Expression.normalized, Expression.columnNames, Expression.column.injEq,
      c.folded_folded_iff, settled_singleton]
  | property name =>
    simp only [Expression.normalized, Expression.columnNames, Expression.property.injEq,
      foldName_foldName_iff, settled_singleton]
  | constant c => simp only [Expression.normalized, Expression.columnNames, settled_nil]
  | unary op e =>
    simp only [Expression.normalized, Expression.columnNames, Expression.unary.injEq, true_and,
      e.normalized_normalized_iff]
  | binary op l r =>
    simp only [Expression.normalized, Expression.columnNames, Expression.binary.injEq, true_and,
      settled_append, l.normalized_normalized_iff, r.normalized_normalized_iff]
  | between t l h =>
    simp only [Expression.normalized, Expression.columnNames, Expression.between.injEq,
      settled_append, and_assoc, t.normalized_normalized_iff, l.normalized_normalized_iff,
      h.normalized_normalized_iff]
  | member l cs =>
    simp only [Expression.normalized, Expression.columnNames, Expression.member.injEq,
      settled_append, l.normalized_normalized_iff, Expression.normalizedAll_normalizedAll_iff cs]
  | group op es =>
    simp only [Expression.normalized, Expression.columnNames, Expression.group.injEq, true_and,
      Expression.normalizedAll_normalizedAll_iff es]
  | call f es =>
    simp only [Expression.normalized, Expression.columnNames, Expression.call.injEq,
      f.folded_folded, true_and, Expression.normalizedAll_normalizedAll_iff es]
  | aggregate a =>
    simp only [Expression.normalized, Expression.columnNames, Expression.aggregate.injEq,
      a.normalized_normalized_iff]
termination_by structural e

theorem Expression.normalizedAll_normalizedAll_iff (es : List Expression) :
    Expression.normalizedAll (Expression.normalizedAll es) = Expression.normalizedAll es ↔
      Settled (Expression.columnNamesAll es) := by
  cases es with
  | nil => simp only [Expression.normalizedAll, Expression.columnNamesAll, settled_nil]
  | cons e es =>
    simp only [Expression.normalizedAll, Expression.columnNamesAll, List.cons.injEq,
      settled_append, e.normalized_normalized_iff, Expression.normalizedAll_normalizedAll_iff es]
termination_by structural es

theorem Expression.normalizedOption_normalizedOption_iff (e : Option Expression) :
    Expression.normalizedOption (Expression.normalizedOption e) = Expression.normalizedOption e ↔
      Settled (Expression.columnNamesOption e) := by
  cases e with
  | none => simp only [Expression.normalizedOption, Expression.columnNamesOption, settled_nil]
  | some e =>
    simp only [Expression.normalizedOption, Expression.columnNamesOption, Option.some.injEq,
      e.normalized_normalized_iff]
termination_by structural e

theorem Aggregate.normalized_normalized_iff (a : Aggregate) :
    a.normalized.normalized = a.normalized ↔ Settled a.columnNames := by
  match a with
  | ⟨kind, target, statement⟩ =>
    simp only [Aggregate.normalized, Aggregate.columnNames, Aggregate.mk.injEq,
      kind.folded_folded, true_and, settled_append,
      Expression.normalizedOption_normalizedOption_iff target,
      Statement.normalizedOption_normalizedOption_iff statement]
termination_by structural a

theorem OutputColumn.normalized_normalized_iff (o : OutputColumn) :
    o.normalized.normalized = o.normalized ↔ Settled o.columnNames := by
  match o with
  | ⟨e, name⟩ =>
    simp only [OutputColumn.normalized, OutputColumn.columnNames, OutputColumn.mk.injEq,
      map_lower_map_lower, and_true, e.normalized_normalized_iff]
termination_by structural o

theorem OutputColumn.normalizedAll_normalizedAll_iff (os : List OutputColumn) :
    OutputColumn.normalizedAll (OutputColumn.normalizedAll os) = OutputColumn.normalizedAll os ↔
      Settled (OutputColumn.columnNamesAll os) := by
  cases os with
  | nil => simp only [OutputColumn.normalizedAll, OutputColumn.columnNamesAll, settled_nil]
  | cons o os =>
    simp only [OutputColumn.normalizedAll, OutputColumn.columnNamesAll, List.cons.injEq,
      settled_append, o.normalized_normalized_iff, OutputColumn.normalizedAll_normalizedAll_iff os]
termination_by structural os

theorem SortKey.normalized_normalized_iff (k : SortKey) :
    k.normalized.normalized = k.normalized ↔ Settled k.columnNames := by
  match k with
  | ⟨e, direction⟩ =>
    simp only [SortKey.normalized, SortKey.columnNames, SortKey.mk.injEq, and_true,
      e.normalized_normalized_iff]
termination_by structural k

theorem SortKey.normalizedAll_normalizedAll_iff (ks : List SortKey) :
    SortKey.normalizedAll (SortKey.normalizedAll ks) = SortKey.normalizedAll ks ↔
      Settled (SortKey.columnNamesAll ks) := by
  cases ks with
  | nil => simp only [SortKey.normalizedAll, SortKey.columnNamesAll, settled_nil]
  | cons k ks =>
    simp only [SortKey.normalizedAll, SortKey.columnNamesAll, List.cons.injEq, settled_append,
      k.normalized_normalized_iff, SortKey.normalizedAll_normalizedAll_iff ks]
termination_by structural ks

theorem JoinNode.normalized_normalized_iff (n : JoinNode) :
    n.normalized.normalized = n.normalized ↔ Settled n.columnNames := by
  match n with
  | ⟨table, name, kind, condition, joins⟩ =>
    simp only [JoinNode.normalized, JoinNode.columnNames, JoinNode.mk.injEq, Text.lower_lower,
      map_lower_map_lower, true_and, settled_append,
      Expression.normalizedOption_normalizedOption_iff condition,
      JoinNode.normalizedAll_normalizedAll_iff joins]
termination_by structural n

theorem JoinNode.normalizedAll_normalizedAll_iff (ns : List JoinNode) :
    JoinNode.normalizedAll (JoinNode.normalizedAll ns) = JoinNode.normalizedAll ns ↔
      Settled (JoinNode.columnNamesAll ns) := by
  cases ns with
  | nil => simp only [JoinNode.normalizedAll, JoinNode.columnNamesAll, settled_nil]
  | cons n ns =>
    simp only [JoinNode.normalizedAll, JoinNode.columnNamesAll, List.cons.injEq, settled_append,
      n.normalized_normalized_iff, JoinNode.normalizedAll_normalizedAll_iff ns]
termination_by structural ns

theorem Statement.normalized_normalized_iff (s : Statement) :
    s.normalized.normalized = s.normalized ↔ Settled s.columnNames := by
  match s with
  | ⟨table, name, operands, condition, joins, groupBy, having, sorts, skip, limit⟩ =>
    simp only [Statement.normalized, Statement.columnNames, Statement.mk.injEq, Text.lower_lower,
      map_lower_map_lower, true_and, and_true, settled_append, and_assoc,
      OutputColumn.normalizedAll_normalizedAll_iff operands,
      Expression.normalizedOption_normalizedOption_iff condition,
      JoinNode.normalizedAll_normalizedAll_iff joins,
      Expression.normalizedAll_normalizedAll_iff groupBy,
      Expression.normalizedOption_normalizedOption_iff having,
      SortKey.normalizedAll_normalizedAll_iff sorts]
termination_by structural s

theorem Statement.normalizedOption_normalizedOption_iff (s : Option Statement) :
    Statement.normalizedOption (Statement.normalizedOption s) = Statement.normalizedOption s ↔
      Settled (Statement.columnNamesOption s) := by
  cases s with
  | none => simp only [Statement.normalizedOption, Statement.columnNamesOption, settled_nil]
  | some s =>
    simp only [Statement.normalizedOption, Statement.columnNamesOption, Option.some.injEq,
      s.normalized_normalized_iff]
termination_by structural s

end

/-- A name is brought to a tidy path, which is in normal form unless a marker is left in it. The
expression of a signature has that signature if and only if no marker is left in any of the names of
the expression. -/
theorem Expression.signature_of_signature (name : String) (e : Expression) :
    (ColumnName.Tidy (ColumnName.normalize name).toList ∧
      (ColumnName.marker <:+: (ColumnName.normalize name).toList ↔ ColumnName.KeepsMarker name) ∧
      (ColumnName.normalize (ColumnName.normalize name) = ColumnName.normalize name ↔
        ¬ ColumnName.KeepsMarker name)) ∧
    (e.signature.expression.signature = e.signature ↔
      ∀ name ∈ e.columnNames, ¬ ColumnName.KeepsMarker name) := by
  constructor
  · exact ⟨ColumnName.tidy_normalize name, ColumnName.marker_infix_normalize_iff name,
      ColumnName.normalize_normalize_iff name⟩
  · rw [signature, signature, Signature.mk.injEq]
    exact e.normalized_normalized_iff

/-- Two exclamation marks before a dot, or two backslashes after one, leave a marker. -/
theorem Expression.not_signature_of_signature :
    (ColumnName.normalize "Customer!!.Name" = "Customer!.Name" ∧
      ColumnName.normalize "Customer!\\\\.Name" = "Customer!.Name" ∧
      ColumnName.normalize "Customer!.Name" = "Customer.Name") ∧
    (Expression.column ⟨none, "Customer!!.Name", .unknown⟩).signature.expression.signature ≠
      (Expression.column ⟨none, "Customer!!.Name", .unknown⟩).signature := by
  decide

end RelPipe
