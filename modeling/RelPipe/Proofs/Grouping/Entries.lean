import RelPipe.Proofs.Scoping.Correlations
import RelPipe.Proofs.Scoping.Planning

/-!
Where the entries of a grouping come from: keys are group keys of the statement, and aggregates
stand in its operands, its group condition or its sort keys. Of several with one signature, the
first is the entry.
-/

namespace RelPipe

set_option autoImplicit false

theorem Expression.localPart_of_mem_localAggregates {a : Aggregate} (e : Expression)
    (h : a ∈ e.localAggregates) : (Expression.aggregate a).LocalPart e ∧ a.statement = none := by
  have hAll : ∀ {es : List Expression}, a ∈ localAggregatesAll es →
      ∃ e ∈ es, a ∈ e.localAggregates := by
    intro es hes
    induction es with
    | nil => cases hes
    | cons e es ih =>
      obtain he | hes := List.mem_append.mp hes
      · exact ⟨e, .head _, he⟩
      · obtain ⟨d, hd, ha⟩ := ih hes
        exact ⟨d, .tail _ hd, ha⟩
  induction e using local_induction with
  | step e ih =>
    have hChild : ∀ c ∈ e.localChildren, a ∈ c.localAggregates →
        (Expression.aggregate a).LocalPart e ∧ a.statement = none :=
      fun c hc ha => ⟨.child hc (ih c hc ha).1, (ih c hc ha).2⟩
    cases e with
    | column _ | property _ | constant _ => cases h
    | unary op e => exact hChild e (.head _) h
    | binary op l r =>
      obtain h | h := List.mem_append.mp h
      · exact hChild l (.head _) h
      · exact hChild r (.tail _ (.head _)) h
    | between t l u =>
      obtain h | h := List.mem_append.mp h
      · obtain h | h := List.mem_append.mp h
        · exact hChild t (.head _) h
        · exact hChild l (.tail _ (.head _)) h
      · exact hChild u (.tail _ (.tail _ (.head _))) h
    | member l cs =>
      obtain h | h := List.mem_append.mp h
      · exact hChild l (.head _) h
      · obtain ⟨c, hc, ha⟩ := hAll h
        exact hChild c (.tail _ hc) ha
    | group _ es | call _ es =>
      obtain ⟨c, hc, ha⟩ := hAll h
      exact hChild c hc ha
    | aggregate b =>
      match b with
      | ⟨kind, target, none⟩ =>
        obtain rfl := List.mem_singleton.mp h
        exact ⟨.self _, rfl⟩
      | ⟨_, _, some _⟩ => cases h

theorem find?_signature_of_mem {α : Type} {signature : α → Signature} {items : List α} {a : α}
    (h : ∃ b ∈ items, signature b = signature a) (rest : List α) (wanted : Signature) :
    (items ++ a :: rest).find? (fun b => signature b = wanted) =
      (items ++ rest).find? fun b => signature b = wanted := by
  rw [List.find?_append, List.find?_append, List.find?_cons]
  by_cases hWanted : signature a = wanted
  · obtain ⟨b, hb, hSame⟩ := h
    have hFound : (items.find? fun b => signature b = wanted).isSome = true := by
      rw [List.find?_isSome]
      exact ⟨b, hb, decide_eq_true (hSame.trans hWanted)⟩
    obtain ⟨c, hc⟩ := Option.isSome_iff_exists.mp hFound
    rw [hc, Option.some_or, Option.some_or]
  · rw [decide_eq_false hWanted]

namespace Grouping

theorem mem_keysFrom {keys : List GroupKey} {index : Nat} {es : List Expression} {k : GroupKey}
    (h : k ∈ keysFrom keys index es) :
    k ∈ keys ∨ k.expression ∈ es ∧
      ∃ others position, k.name = keyName others k.expression position := by
  induction es generalizing keys index with
  | nil => exact .inl h
  | cons e es ih =>
    obtain h | ⟨hMem, hName⟩ := ih h
    · unfold addKey at h
      split at h
      · exact .inl h
      · obtain h | h := List.mem_append.mp h
        · exact .inl h
        · obtain rfl := List.mem_singleton.mp h
          exact .inr ⟨.head _, keys, index, rfl⟩
    · exact .inr ⟨.tail _ hMem, hName⟩

theorem mem_foldl_addAggregate {aggregates : List GroupAggregate} {added : List Aggregate}
    {a : GroupAggregate} (h : a ∈ added.foldl addAggregate aggregates) :
    a ∈ aggregates ∨ a.aggregate ∈ added := by
  induction added generalizing aggregates with
  | nil => exact .inl h
  | cons b added ih =>
    obtain h | h := ih h
    · unfold addAggregate at h
      split at h
      · exact .inl h
      · obtain h | h := List.mem_append.mp h
        · exact .inl h
        · obtain rfl := List.mem_singleton.mp h
          exact .inr (.head _)
    · exact .inr (.tail _ h)

theorem mem_groupBy_of_mem_keys {s : Statement} {k : GroupKey} (h : k ∈ (ofStatement s).keys) :
    k.expression ∈ s.groupBy := by
  obtain h | ⟨h, _⟩ := mem_keysFrom h
  · cases h
  · exact h

theorem dollar_columnKeyName? {e : Expression}
    (h : ∀ ref, e = .column ref → Text.dollar (ColumnName.normalize ref.name) = false)
    {name : String} (hName : columnKeyName? e = some name) : Text.dollar name = false := by
  cases e with
  | column ref =>
    have hRef := h ref rfl
    rw [columnKeyName?] at hName
    generalize ColumnName.normalize ref.name = column at hRef hName
    obtain ⟨_, hName⟩ := Option.ite_none_left_eq_some.mp hName
    rw [← Option.some.inj hName]
    simp only [Text.dollar, String.toList_ofList, List.head?_map] at hRef ⊢
    cases hHead : column.toList.head? with
    | none => rfl
    | some c =>
      rw [hHead] at hRef
      rw [Option.map_some]
      split
      · rfl
      · exact hRef
  | _ => cases hName

/-- The name of a key starts like a reference only if its column does. -/
theorem dollar_keyName {e : Expression}
    (h : ∀ ref, e = .column ref → Text.dollar (ColumnName.normalize ref.name) = false)
    (keys : List GroupKey) (index : Nat) : Text.dollar (keyName keys e index) = false := by
  have hNumber : Text.dollar ("K" ++ Text.Numeral.ofNat index) = false := by simp [Text.dollar]
  unfold keyName
  split
  · rename_i name hName
    split
    · exact hNumber
    · exact dollar_columnKeyName? h hName
  · exact hNumber

theorem dollar_of_mem_keys {s : Statement} (h : ∀ ref, .column ref ∈ s.groupBy →
    Text.dollar (ColumnName.normalize ref.name) = false) {k : GroupKey}
    (hk : k ∈ (ofStatement s).keys) : Text.dollar k.name = false := by
  obtain hNil | ⟨hMem, others, position, hName⟩ := mem_keysFrom hk
  · cases hNil
  · rw [hName]
    exact dollar_keyName (fun ref hRef => h ref (hRef ▸ hMem)) others position

theorem exists_localPart_of_mem_aggregates {s : Statement} {a : GroupAggregate}
    (h : a ∈ (ofStatement s).aggregates) {t : Expression} (ht : a.aggregate.target = some t) :
    ∃ e ∈ s.expressions, t.LocalPart e := by
  obtain h | h := mem_foldl_addAggregate h
  · cases h
  · obtain ⟨e, he, ha⟩ := List.mem_flatMap.mp h
    have hExpression : e ∈ s.expressions := by
      simp only [List.mem_append] at he
      simp only [Statement.expressions, List.mem_append]
      obtain (he | he) | he := he
      · exact .inl (.inl (.inl (.inl he)))
      · exact .inl (.inr he)
      · exact .inr he
    obtain ⟨hPart, hStatement⟩ := e.localPart_of_mem_localAggregates ha
    have hTarget : t ∈ (Expression.aggregate a.aggregate).localChildren := by
      obtain ⟨_, _, target, statement⟩ := a
      cases hStatement
      cases ht
      exact .head _
    exact ⟨e, hExpression, (Expression.LocalPart.child hTarget (.self t)).trans hPart⟩

/-! Entries are found by signature and told apart by name. -/

theorem find?_keysFrom (keys : List GroupKey) (index : Nat) (es : List Expression)
    (signature : Signature) :
    ((keysFrom keys index es).find? fun k => k.signature = signature).map GroupKey.expression =
      (keys.map GroupKey.expression ++ es).find? fun e => e.signature = signature := by
  induction es generalizing keys index with
  | nil =>
    rw [List.append_nil, List.find?_map]
    rfl
  | cons e es ih =>
    rw [keysFrom, ih, addKey]
    split
    · rename_i hKnown
      obtain ⟨k, hk, hSame⟩ := List.any_eq_true.mp hKnown
      refine (find?_signature_of_mem ⟨k.expression, List.mem_map.mpr ⟨k, hk, rfl⟩, ?_⟩ es _).symm
      exact of_decide_eq_true hSame
    · rw [List.map_append, List.append_assoc]
      rfl

theorem nodup_signatures_keysFrom {keys : List GroupKey} (h : (keys.map GroupKey.signature).Nodup)
    (index : Nat) (es : List Expression) :
    ((keysFrom keys index es).map GroupKey.signature).Nodup := by
  induction es generalizing keys index with
  | nil => exact h
  | cons e es ih =>
    refine ih ?_ _
    unfold addKey
    split
    · exact h
    · rename_i hNew
      rw [List.map_append, List.map_singleton]
      refine List.Nodup.append h (List.nodup_singleton _)
        (List.disjoint_singleton.mpr fun hMem => ?_)
      obtain ⟨k, hk, hSame⟩ := List.mem_map.mp hMem
      exact hNew (List.any_eq_true.mpr ⟨k, hk, decide_eq_true hSame⟩)

theorem find?_foldl_addAggregate (aggregates : List GroupAggregate) (added : List Aggregate)
    (signature : Signature) :
    ((added.foldl addAggregate aggregates).find? fun a => a.signature = signature).map
        GroupAggregate.aggregate =
      (aggregates.map GroupAggregate.aggregate ++ added).find?
        fun a => a.signature = signature := by
  induction added generalizing aggregates with
  | nil =>
    rw [List.append_nil, List.find?_map]
    rfl
  | cons a added ih =>
    rw [List.foldl_cons, ih, addAggregate]
    split
    · rename_i hKnown
      obtain ⟨b, hb, hSame⟩ := List.any_eq_true.mp hKnown
      refine (find?_signature_of_mem ⟨b.aggregate, List.mem_map.mpr ⟨b, hb, rfl⟩, ?_⟩ added _).symm
      exact of_decide_eq_true hSame
    · rw [List.map_append, List.append_assoc]
      rfl

theorem names_foldl_addAggregate (aggregates : List GroupAggregate) (added : List Aggregate)
    (h : aggregates.map GroupAggregate.name =
      (List.range aggregates.length).map fun index => "Agg" ++ Text.Numeral.ofNat index) :
    (added.foldl addAggregate aggregates).map GroupAggregate.name =
      (List.range (added.foldl addAggregate aggregates).length).map fun index =>
        "Agg" ++ Text.Numeral.ofNat index := by
  induction added generalizing aggregates with
  | nil => exact h
  | cons a added ih =>
    refine ih _ ?_
    unfold addAggregate
    split
    · exact h
    · rw [List.map_append, h, List.length_append, List.range_add]
      simp

theorem nodup_names_aggregates (s : Statement) :
    ((ofStatement s).aggregates.map GroupAggregate.name).Nodup := by
  have hNames : (ofStatement s).aggregates.map GroupAggregate.name =
      (List.range (ofStatement s).aggregates.length).map fun index =>
        "Agg" ++ Text.Numeral.ofNat index := names_foldl_addAggregate [] _ rfl
  rw [hNames]
  refine List.nodup_range.map fun m n hName => ?_
  exact Text.Numeral.ofNat_injective ((String.append_right_inj _).mp hName)

theorem dot_not_mem_of_mem_keys {s : Statement} {k : GroupKey} (hk : k ∈ (ofStatement s).keys) :
    '.' ∉ k.name.toList := by
  obtain hNil | ⟨_, others, position, hName⟩ := mem_keysFrom hk
  · cases hNil
  · have hNumber : '.' ∉ ("K" ++ Text.Numeral.ofNat position).toList := by
      rw [String.toList_append, List.mem_append, not_or]
      exact ⟨by decide, Text.Numeral.not_mem_ofNat rfl position⟩
    rw [hName]
    unfold keyName
    split
    · rename_i name hColumn
      split
      · exact hNumber
      · cases he : k.expression with
        | column ref =>
          rw [he, columnKeyName?] at hColumn
          obtain ⟨_, hColumn⟩ := Option.ite_none_left_eq_some.mp hColumn
          rw [← Option.some.inj hColumn, String.toList_ofList, List.mem_map]
          rintro ⟨c, _, hc⟩
          split at hc
          · cases hc
          · rename_i hOther
            subst hc
            simp at hOther
        | _ =>
          rw [he] at hColumn
          cases hColumn
    · exact hNumber

/-! The stage that groups -/

def WritesKey (site : Site) (k : GroupKey) (field : String × Value) : Prop :=
  field.1 = k.name ∧ keyValue site k.expression = .ok field.2

def WritesAggregate (site : Site) (a : GroupAggregate) (field : String × Value) : Prop :=
  field.1 = a.name ∧ ∃ i, input site a.aggregate.target = .ok i ∧
    a.aggregate.kind.accumulator i = .ok field.2

variable {site : Site}

theorem forall₂_keyFields {keys : List GroupKey} {fields : List (String × Value)}
    (h : keyFields site keys = .ok fields) : List.Forall₂ (WritesKey site) keys fields := by
  induction keys generalizing fields with
  | nil =>
    cases h
    exact .nil
  | cons k keys ih =>
    obtain ⟨v, hv, h⟩ := exists_of_bind_eq_ok h
    obtain ⟨others, hOthers, h⟩ := exists_of_bind_eq_ok h
    cases h
    exact .cons ⟨rfl, hv⟩ (ih hOthers)

theorem forall₂_accumulatorFields {aggregates : List GroupAggregate}
    {fields : List (String × Value)} (h : accumulatorFields site aggregates = .ok fields) :
    List.Forall₂ (WritesAggregate site) aggregates fields := by
  induction aggregates generalizing fields with
  | nil =>
    cases h
    exact .nil
  | cons a aggregates ih =>
    obtain ⟨i, hi, h⟩ := exists_of_bind_eq_ok h
    obtain ⟨v, hv, h⟩ := exists_of_bind_eq_ok h
    obtain ⟨others, hOthers, h⟩ := exists_of_bind_eq_ok h
    cases h
    exact .cons ⟨rfl, i, hi, hv⟩ (ih hOthers)

theorem exists_of_stageDocument {g : Grouping} {body : Document}
    (h : g.stageDocument site = .ok body) :
    ∃ keys accumulators, List.Forall₂ (WritesKey site) g.keys keys ∧
      List.Forall₂ (WritesAggregate site) g.aggregates accumulators ∧
      body = ("_id", if keys.isEmpty then .null else .document (Fields.ofPairs keys)) ::
        accumulators := by
  obtain ⟨keys, hKeys, h⟩ := exists_of_bind_eq_ok h
  obtain ⟨accumulators, hAccumulators, h⟩ := exists_of_bind_eq_ok h
  cases h
  exact ⟨keys, accumulators, forall₂_keyFields hKeys, forall₂_accumulatorFields hAccumulators, rfl⟩

theorem stageDocument_ne_nil {g : Grouping} {body : Document}
    (h : g.stageDocument site = .ok body) : body ≠ [] := by
  obtain ⟨keys, accumulators, _, _, rfl⟩ := exists_of_stageDocument h
  exact List.cons_ne_nil _ _

end Grouping

end RelPipe
