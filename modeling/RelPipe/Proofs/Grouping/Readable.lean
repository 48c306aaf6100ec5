import RelPipe.Proofs.Compile.Reads

/-!
What is read after grouping. A document then holds keys under `_id` and aggregates under their
names. An expression that is put together from entries of the grouping compiles to a value and to a
filter that refer to these only.
-/

namespace RelPipe

set_option autoImplicit false

namespace Grouping

/-- What may be referred to after grouping: the keys, the aggregates and the variables of a fold. -/
inductive Provides (g : Grouping) : String → Prop where
  | key {k : GroupKey} (h : k ∈ g.keys) : Provides g ("$_id." ++ k.name)
  | aggregate {index : Nat} (h : index < g.aggregates.length) :
    Provides g ("$Agg" ++ Text.Numeral.ofNat index)
  | accumulated : Provides g "$$value"
  | element : Provides g "$$this"

/-! Names of aggregates -/

def Numbered (aggregates : List GroupAggregate) : Prop :=
  ∀ a ∈ aggregates, ∃ index < aggregates.length, a.name = "Agg" ++ Text.Numeral.ofNat index

theorem Numbered.addAggregate {aggregates : List GroupAggregate} (h : Numbered aggregates)
    (a : Aggregate) : Numbered (addAggregate aggregates a) := by
  unfold Grouping.addAggregate
  split
  · exact h
  · intro b hb
    rw [List.length_append]
    obtain hb | hb := List.mem_append.mp hb
    · obtain ⟨index, hIndex, hName⟩ := h b hb
      exact ⟨index, Nat.lt_add_right _ hIndex, hName⟩
    · obtain rfl := List.mem_singleton.mp hb
      exact ⟨aggregates.length, Nat.lt_succ_self _, rfl⟩

theorem Numbered.foldl {aggregates : List GroupAggregate} (h : Numbered aggregates)
    (added : List Aggregate) : Numbered (added.foldl Grouping.addAggregate aggregates) := by
  induction added generalizing aggregates with
  | nil => exact h
  | cons a added ih => exact ih (h.addAggregate a)

theorem numbered_ofStatement (s : Statement) : Numbered (ofStatement s).aggregates :=
  Numbered.foldl (List.forall_mem_nil _) _

variable {g : Grouping}

theorem Provides.aggregateField (hg : Numbered g.aggregates) {a : GroupAggregate}
    (ha : a ∈ g.aggregates) : g.Provides ("$" ++ a.name) := by
  obtain ⟨index, hIndex, hName⟩ := hg a ha
  have hField : "$" ++ a.name = "$Agg" ++ Text.Numeral.ofNat index := by
    rw [hName, ← String.append_assoc]
    rfl
  rw [hField]
  exact .aggregate hIndex

theorem exists_key_of_keyName? {signature : Signature} {name : String}
    (h : g.keyName? signature = some name) : ∃ k ∈ g.keys, k.name = name := by
  obtain ⟨k, hFound, rfl⟩ := Option.map_eq_some_iff.mp h
  exact ⟨k, List.mem_of_find?_eq_some hFound, rfl⟩

theorem exists_of_operand? {e : Expression} {o : Operand} (h : g.operand? e = some o) {r : String}
    (hr : r ∈ o.freeReferences) :
    (∃ k ∈ g.keys, r = "$_id." ++ k.name) ∨ ∃ a ∈ g.aggregates, r = "$" ++ a.name := by
  unfold operand? at h
  split at h
  · cases h
  · split at h
    · cases h
    · split at h
      · rename_i name hKey
        obtain ⟨k, hk, rfl⟩ := exists_key_of_keyName? hKey
        cases h
        obtain ⟨_, rfl⟩ := Value.mem_freeReferences_string.mp hr
        exact .inl ⟨k, hk, rfl⟩
      · obtain ⟨a, ha, ho⟩ := Option.map_eq_some_iff.mp h
        have hField : r ∈ (Value.string ("$" ++ a.name)).freeReferences := by
          dsimp only at ho
          split at ho <;> cases ho
          · simpa [Operand.freeReferences, Operand.render] using hr
          · exact hr
        obtain ⟨_, rfl⟩ := Value.mem_freeReferences_string.mp hField
        exact .inr ⟨a, List.mem_of_find?_eq_some ha, rfl⟩

theorem provides_of_operand? (hg : Numbered g.aggregates) {e : Expression} {o : Operand}
    (h : g.operand? e = some o) {r : String} (hr : r ∈ o.freeReferences) : g.Provides r := by
  obtain ⟨k, hk, rfl⟩ | ⟨a, ha, rfl⟩ := exists_of_operand? h hr
  · exact .key hk
  · exact .aggregateField hg ha

theorem Provides.of_isFoldVariable {r : String} (h : Value.isFoldVariable r = true) :
    g.Provides r := by
  have hEither : r = "$$value" ∨ r = "$$this" := by simpa [Value.isFoldVariable] using h
  obtain rfl | rfl := hEither
  · exact .accumulated
  · exact .element

end Grouping

namespace Site

variable {site : Site}

/-- The expressions whose compiled form is built from keys, aggregates and constants. -/
inductive Keeps (site : Site) : Expression → Prop where
  | entry {e : Expression} {o : Operand} (h : site.grouping.operand? e = some o) : Keeps site e
  | constant (c : Constant) : Keeps site (.constant c)
  | complement {e c : Expression} (hc : e.complement? = some c) (h : Keeps site c) :
    Keeps site (.unary .not e)
  | unary {op : UnaryOp} {e : Expression} (hop : op = .not → e.complement? = none)
    (h : Keeps site e) : Keeps site (.unary op e)
  | binary {op : BinaryOp} {l r : Expression} (hl : Keeps site l) (hr : Keeps site r) :
    Keeps site (.binary op l r)
  | between {t l h : Expression} (ht : Keeps site t) (hl : Keeps site l) (hh : Keeps site h) :
    Keeps site (.between t l h)
  | member {l : Expression} {cs : List Expression} (hl : Keeps site l)
    (hcs : ∀ c ∈ cs, Keeps site c) : Keeps site (.member l cs)
  | group {op : GroupOp} {es : List Expression} (h : ∀ e ∈ es, Keeps site e) :
    Keeps site (.group op es)
  | call {f : Function} {es : List Expression} (h : ∀ e ∈ es, Keeps site e)
    (hSuffix : ¬ site.SearchesEmptySuffix f es) : Keeps site (.call f es)

/-- An expression is readable if what it compiles to, as an operand and as a clause, refers only to
what the grouping provides. -/
structure Readable (site : Site) (e : Expression) : Prop where
  operand : Yields (site.compile e) (Operand.RefersWithin site.grouping.Provides)
  clause : Yields (site.clauseOf e) (Filter.RefersWithin site.grouping.Provides)

theorem Readable.value {e : Expression} (h : site.Readable e) :
    Yields (site.value e) (Value.RefersWithin site.grouping.Provides) :=
  h.operand.map fun _ ho => ho

theorem Keeps.input {e c : Expression} (h : site.Keeps e)
    (hNone : site.grouping.operand? e = none) (hc : c ∈ e.inputs) : site.Keeps c := by
  cases h with
  | entry h =>
    rw [h] at hNone
    cases hNone
  | constant => cases hc
  | complement hComplement h =>
    rw [Expression.inputs_not_of_complement? hComplement] at hc
    obtain rfl := List.mem_singleton.mp hc
    exact h
  | @unary op e hop h =>
    have hInputs : (Expression.unary op e).inputs = [e] := by
      by_cases hNot : op = .not
      · subst hNot
        exact Expression.inputs_not (hop rfl)
      · exact Expression.inputs_unary hNot e
    rw [hInputs] at hc
    obtain rfl := List.mem_singleton.mp hc
    exact h
  | binary hl hr =>
    obtain rfl | rfl := List.mem_pair.mp hc
    · exact hl
    · exact hr
  | between ht hl hh =>
    obtain rfl | rfl | rfl : c = _ ∨ c = _ ∨ c = _ := by
      simpa [Expression.inputs, Expression.children] using hc
    · exact ht
    · exact hl
    · exact hh
  | member hl hcs =>
    cases hc with
    | head => exact hl
    | tail _ hc => exact hcs c hc
  | group h => exact h c hc
  | call h =>
    rw [Expression.inputs] at hc
    split at hc
    · cases hc
    · exact h c hc

theorem Keeps.not_readsItself {e : Expression} {r : String} (h : site.Keeps e)
    (hNone : site.grouping.operand? e = none) : ¬ site.ReadsItself e r := by
  intro hReads
  cases h with
  | entry h =>
    rw [h] at hNone
    cases hNone
  | call _ hSuffix =>
    cases hReads with
    | suffix h => exact hSuffix h
  | _ => cases hReads

/-- What is put together from entries reads entries only. -/
theorem Keeps.provides (hg : Grouping.Numbered site.grouping.aggregates) {e : Expression}
    {r : String} (h : site.Keeps e) (hReads : site.Reads e r) : site.grouping.Provides r := by
  induction hReads with
  | entry hEntry hr => exact Grouping.provides_of_operand? hg hEntry hr
  | itself hNone hItself => exact absurd hItself (h.not_readsItself hNone)
  | input hNone hc _ ih => exact ih (h.input hNone hc)

theorem readable_of_keeps (hg : Grouping.Numbered site.grouping.aggregates) {e : Expression}
    (h : site.Keeps e) : site.Readable e where
  operand o ho := Value.refersWithin_of_free (fun _ => .of_isFoldVariable) fun r hr =>
    h.provides hg (((site.refers e).operand o ho r).mp hr)
  clause f hf := ((site.refers e).uniform f hf).refersWithin (fun _ => .of_isFoldVariable)
    fun r hr => h.provides hg (((site.refers e).clause f hf r).mp hr)

end Site

end RelPipe
