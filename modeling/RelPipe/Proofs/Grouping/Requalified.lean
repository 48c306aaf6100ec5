import RelPipe.Proofs.Compile.Signatures
import RelPipe.Proofs.Statement.Requalify

/-!
Groupings of statements with other qualifiers. The group keys and the aggregates are looked up by
signature, so a grouping with respelled qualifiers holds the same fields under the same names and
covers the same expressions.
-/

namespace RelPipe

set_option autoImplicit false

variable (f : String → String)

mutual

theorem Expression.localAggregates_requalify (e : Expression) :
    (e.requalify f).localAggregates = e.localAggregates.map (Aggregate.requalify f) := by
  match e with
  | .column c => rfl
  | .property name => rfl
  | .constant c => rfl
  | .unary op e => exact Expression.localAggregates_requalify e
  | .binary op l r =>
    simp only [Expression.requalify, Expression.localAggregates, List.map_append,
      l.localAggregates_requalify, r.localAggregates_requalify]
  | .between t l h =>
    simp only [Expression.requalify, Expression.localAggregates, List.map_append,
      t.localAggregates_requalify, l.localAggregates_requalify, h.localAggregates_requalify]
  | .member l cs =>
    simp only [Expression.requalify, Expression.localAggregates, List.map_append,
      l.localAggregates_requalify, Expression.localAggregatesAll_requalifyAll cs]
  | .group op es => exact Expression.localAggregatesAll_requalifyAll es
  | .call function es => exact Expression.localAggregatesAll_requalifyAll es
  | .aggregate ⟨kind, target, none⟩ => rfl
  | .aggregate ⟨kind, target, some s⟩ => rfl
termination_by structural e

theorem Expression.localAggregatesAll_requalifyAll (es : List Expression) :
    Expression.localAggregatesAll (Expression.requalifyAll f es) =
      (Expression.localAggregatesAll es).map (Aggregate.requalify f) := by
  cases es with
  | nil => rfl
  | cons e es =>
    simp only [Expression.requalifyAll, Expression.localAggregatesAll, List.map_append,
      e.localAggregates_requalify, Expression.localAggregatesAll_requalifyAll es]
termination_by structural es

end

def GroupKey.requalify (k : GroupKey) : GroupKey := ⟨k.name, k.expression.requalify f⟩

def GroupAggregate.requalify (a : GroupAggregate) : GroupAggregate :=
  ⟨a.name, a.aggregate.requalify f⟩

def Grouping.requalify (g : Grouping) : Grouping :=
  ⟨g.keys.map (GroupKey.requalify f), g.aggregates.map (GroupAggregate.requalify f)⟩

theorem Grouping.requalify_id (g : Grouping) : g.requalify id = g := by
  obtain ⟨keys, aggregates⟩ := g
  have hKey : GroupKey.requalify id = id := by
    funext k
    rw [GroupKey.requalify, k.expression.requalify_id]
    rfl
  have hAggregate : GroupAggregate.requalify id = id := by
    funext a
    rw [GroupAggregate.requalify, a.aggregate.requalify_id]
    rfl
  rw [requalify, hKey, hAggregate, List.map_id, List.map_id]

theorem Grouping.isEmpty_requalify (g : Grouping) : (g.requalify f).isEmpty = g.isEmpty := by
  simp only [requalify, isEmpty, List.isEmpty_map]

theorem Grouping.columnKeyName?_requalify (e : Expression) :
    columnKeyName? (e.requalify f) = columnKeyName? e := by
  cases e <;> rfl

variable {f}

section

variable (hf : KeepsCaseless f)

include hf

theorem GroupKey.signature_requalify (k : GroupKey) : (k.requalify f).signature = k.signature :=
  k.expression.signature_requalify hf

theorem GroupAggregate.signature_requalify (a : GroupAggregate) :
    (a.requalify f).signature = a.signature :=
  a.aggregate.signature_requalify hf

namespace Grouping

theorem addKey_requalify (keys : List GroupKey) (e : Expression) (index : Nat) :
    addKey (keys.map (GroupKey.requalify f)) (e.requalify f) index =
      (addKey keys e index).map (GroupKey.requalify f) := by
  have hSignatures : ((keys.map (GroupKey.requalify f)).any fun k =>
      k.signature = (e.requalify f).signature) = keys.any fun k => k.signature = e.signature := by
    rw [List.any_map]
    simp only [Function.comp_def, GroupKey.signature_requalify hf, e.signature_requalify hf]
  have hName : keyName (keys.map (GroupKey.requalify f)) (e.requalify f) index =
      keyName keys e index := by
    unfold keyName
    rw [columnKeyName?_requalify]
    simp only [List.any_map]
    rfl
  unfold addKey
  rw [hSignatures, hName]
  split
  · rfl
  · rw [List.map_append]
    rfl

theorem keysFrom_requalify (keys : List GroupKey) (index : Nat) (es : List Expression) :
    keysFrom (keys.map (GroupKey.requalify f)) index (es.map (Expression.requalify f)) =
      (keysFrom keys index es).map (GroupKey.requalify f) := by
  induction es generalizing keys index with
  | nil => rfl
  | cons e es ih => rw [List.map_cons, keysFrom, addKey_requalify hf, ih, keysFrom]

theorem addAggregate_requalify (aggregates : List GroupAggregate) (a : Aggregate) :
    addAggregate (aggregates.map (GroupAggregate.requalify f)) (a.requalify f) =
      (addAggregate aggregates a).map (GroupAggregate.requalify f) := by
  have hSignatures : ((aggregates.map (GroupAggregate.requalify f)).any fun b =>
      b.signature = (a.requalify f).signature) =
        aggregates.any fun b => b.signature = a.signature := by
    rw [List.any_map]
    simp only [Function.comp_def, GroupAggregate.signature_requalify hf, a.signature_requalify hf]
  unfold addAggregate
  rw [hSignatures, List.length_map]
  split
  · rfl
  · rw [List.map_append]
    rfl

theorem foldl_addAggregate_requalify (aggregates : List GroupAggregate) (as : List Aggregate) :
    (as.map (Aggregate.requalify f)).foldl addAggregate
        (aggregates.map (GroupAggregate.requalify f)) =
      (as.foldl addAggregate aggregates).map (GroupAggregate.requalify f) := by
  induction as generalizing aggregates with
  | nil => rfl
  | cons a as ih =>
    rw [List.map_cons, List.foldl_cons, addAggregate_requalify hf, ih, List.foldl_cons]

theorem ofStatement_requalify (s : Statement) :
    ofStatement (s.requalify f) = (ofStatement s).requalify f := by
  have hAggregates : ∀ es : List Expression,
      (es.map (Expression.requalify f)).flatMap Expression.localAggregates =
        (es.flatMap Expression.localAggregates).map (Aggregate.requalify f) := by
    intro es
    rw [List.flatMap_map, List.map_flatMap]
    simp only [Expression.localAggregates_requalify]
  have hKeys := keysFrom_requalify hf [] 0 s.groupBy
  have hFold := foldl_addAggregate_requalify hf []
  rw [List.map_nil] at hKeys hFold
  rw [Statement.requalify_eq]
  simp only [ofStatement, requalify, List.map_map, Function.comp_def,
    OutputColumn.expression_requalify, SortKey.expression_requalify, Option.toList_map, hKeys]
  rw [← hFold, ← hAggregates]
  simp only [List.map_append, List.map_map, Function.comp_def]

theorem keyName?_requalify (g : Grouping) (signature : Signature) :
    (g.requalify f).keyName? signature = g.keyName? signature := by
  simp only [requalify, keyName?, List.find?_map, Option.map_map, Function.comp_def,
    GroupKey.signature_requalify hf]
  rfl

theorem aggregate?_requalify (g : Grouping) (signature : Signature) :
    (g.requalify f).aggregate? signature =
      (g.aggregate? signature).map (GroupAggregate.requalify f) := by
  simp only [requalify, aggregate?, List.find?_map, Function.comp_def,
    GroupAggregate.signature_requalify hf]

theorem operand?_requalify (g : Grouping) (e : Expression) :
    (g.requalify f).operand? (e.requalify f) = g.operand? e := by
  rw [operand?_congr _ (e.signature_requalify hf)]
  unfold operand?
  simp only [isEmpty_requalify, keyName?_requalify hf, aggregate?_requalify hf, Option.map_map,
    Function.comp_def, GroupAggregate.requalify, Aggregate.kind_requalify]

theorem hasEntry_requalify (g : Grouping) (e : Expression) :
    hasEntry (g.requalify f) (e.requalify f) = hasEntry g e := by
  unfold hasEntry
  rw [e.signature_requalify hf, keyName?_requalify hf, aggregate?_requalify hf, Option.isSome_map]

end Grouping

end

namespace Grouping

mutual

theorem covers_requalify (hf : KeepsCaseless f) (g : Grouping) (e : Expression) :
    covers (g.requalify f) (e.requalify f) = covers g e := by
  have hEntry := hasEntry_requalify hf g e
  match e with
  | .column c => exact hEntry
  | .property name => exact hEntry
  | .constant c => rfl
  | .unary op e =>
    rw [Expression.requalify, covers, covers, covers_requalify hf g e]
    exact congrArg (· || _) hEntry
  | .binary op l r =>
    rw [Expression.requalify, covers, covers, covers_requalify hf g l, covers_requalify hf g r]
    exact congrArg (· || _) hEntry
  | .between t l h =>
    rw [Expression.requalify, covers, covers, covers_requalify hf g t, covers_requalify hf g l,
      covers_requalify hf g h]
    exact congrArg (· || _) hEntry
  | .member l cs =>
    rw [Expression.requalify, covers, covers, covers_requalify hf g l,
      coversAll_requalifyAll hf g cs]
    exact congrArg (· || _) hEntry
  | .group op es =>
    rw [Expression.requalify, covers, covers, coversAll_requalifyAll hf g es]
    exact congrArg (· || _) hEntry
  | .call function es =>
    rw [Expression.requalify, covers, covers, coversAll_requalifyAll hf g es]
    exact congrArg (· || _) hEntry
  | .aggregate a => exact hEntry
termination_by structural e

theorem coversAll_requalifyAll (hf : KeepsCaseless f) (g : Grouping) (es : List Expression) :
    coversAll (g.requalify f) (Expression.requalifyAll f es) = coversAll g es := by
  match es with
  | [] => rfl
  | e :: es =>
    rw [Expression.requalifyAll, coversAll, coversAll, covers_requalify hf g e,
      coversAll_requalifyAll hf g es]
termination_by structural es

end

end Grouping

end RelPipe
