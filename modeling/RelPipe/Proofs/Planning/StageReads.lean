import RelPipe.Proofs.Compile.Shape
import RelPipe.Proofs.Grouping.Coverage
import RelPipe.Proofs.Grouping.Entries
import RelPipe.Proofs.Planning.Projecting

/-!
What the stages of a plan refer to. A condition refers to what its expression reads. A projection
refers to what the expressions read that are written last under the names of its fields, and the
stages after it to these names.
-/

namespace RelPipe

set_option autoImplicit false

def Stage.reads (stage : Stage) : List String :=
  match stage.body with
  | .document body =>
    match stage.kind with
    | .filter => Pipeline.filterFreeReferences body
    | .project => body.flatMap fun field =>
      if Pipeline.flag? field.2 = some true then ["$" ++ field.1] else field.2.freeReferences
    | .group | .addFields => body.flatMap fun field => field.2.freeReferences
    | .sort => body.map fun field => "$" ++ field.1
    | .lookup => ((Fields.get? body "let").map Value.freeReferences).getD []
    | .unwind => ((Fields.get? body "path").map Value.freeReferences).getD []
    | .skip | .limit => []
  | _ => []

theorem Stage.mem_reads_filter {site : Site} {e : Expression} {body : Document}
    (h : site.filterDocument e = .ok body) {r : String} :
    r ∈ (⟨.filter, .document body⟩ : Stage).reads ↔ site.Reads e r := by
  rw [Site.filterDocument_eq_clauseOf] at h
  obtain ⟨f, hf, rfl⟩ := exists_of_map_eq_ok h
  have hRefers := site.refers e
  exact (hRefers.uniform f hf r).trans (hRefers.clause f hf r)

/-! The stage that groups -/

theorem AggregateKind.exists_of_mem_accumulator {kind : AggregateKind} {input : Option Value}
    {v : Value} (h : kind.accumulator input = .ok v) {r : String} (hr : r ∈ v.freeReferences) :
    ∃ i, input = some i ∧ r ∈ i.freeReferences := by
  have hOne : ∀ {w : Value}, Value.single "$sum" (.int32 1) = w → r ∉ w.freeReferences := by
    rintro w rfl hr
    simp at hr
  have hInput : ∀ {operator : String} {i : Value}, operator ≠ "$literal" ∧ operator ≠ "$reduce" →
      Value.single operator i = v → r ∈ i.freeReferences := by
    rintro operator i hOperator rfl
    exact (Value.mem_freeReferences_single hOperator).mp hr
  cases kind with
  | count | «exists» => exact absurd hr (hOne (Except.ok.inj h))
  | custom name => cases h
  | sum | avg | min | max =>
    cases input with
    | none => cases h
    | some i => exact ⟨i, rfl, hInput (by decide) (Except.ok.inj h)⟩

namespace Grouping

variable {site : Site} {r : String}

theorem exists_of_mem_keyValue {e : Expression} {v : Value} (h : keyValue site e = .ok v)
    (hr : r ∈ v.freeReferences) : ∃ c : Expression, c.LocalPart e ∧ site.Reads c r := by
  unfold keyValue at h
  split at h
  · obtain ⟨w, hw, rfl⟩ := exists_of_map_eq_ok h
    rw [Value.mem_freeReferences_single (by decide)] at hr
    exact ⟨_, .child (.head _) (.self _), ((site.refers _).value w hw r).mp hr⟩
  · exact ⟨e, .self e, ((site.refers e).value v h r).mp hr⟩

theorem exists_of_mem_reads {g : Grouping} {body : Document} (h : g.stageDocument site = .ok body)
    (hKeys : ∀ k ∈ g.keys, Text.dollar k.name = false)
    (hr : r ∈ (⟨.group, .document body⟩ : Stage).reads) :
    (∃ k ∈ g.keys, ∃ c : Expression, c.LocalPart k.expression ∧ site.Reads c r) ∨
      ∃ a ∈ g.aggregates, ∃ t, a.aggregate.target = some t ∧ site.Reads t r := by
  obtain ⟨keys, accumulators, hKeyFields, hAccumulators, rfl⟩ := exists_of_stageDocument h
  obtain ⟨field, hField, hr⟩ := List.mem_flatMap.mp hr
  obtain rfl | hField := List.mem_cons.mp hField
  · left
    dsimp only at hr
    split at hr
    · cases hr
    · have hPair : ∀ pair ∈ Fields.ofPairs keys, ∃ k ∈ g.keys, WritesKey site k pair :=
        fun pair hPair => exists_of_mem_of_forall₂ hKeyFields (Fields.mem_of_mem_ofPairs hPair)
      have hNames : ∀ pair ∈ Fields.ofPairs keys, Text.dollar pair.1 = false := by
        intro pair hMem
        obtain ⟨k, hk, hName, _⟩ := hPair pair hMem
        rw [hName]
        exact hKeys k hk
      obtain ⟨pair, hMem, hr⟩ := Value.exists_of_mem_freeReferences hNames hr
      obtain ⟨k, hk, _, hValue⟩ := hPair pair hMem
      exact ⟨k, hk, exists_of_mem_keyValue hValue hr⟩
  · right
    obtain ⟨a, ha, _, i, hi, hv⟩ := exists_of_mem_of_forall₂ hAccumulators hField
    obtain ⟨w, rfl, hr⟩ := AggregateKind.exists_of_mem_accumulator hv hr
    refine ⟨a, ha, ?_⟩
    cases ht : a.aggregate.target with
    | none =>
      rw [ht] at hi
      cases hi
    | some t =>
      rw [ht] at hi
      obtain ⟨v, hValue, hSome⟩ := exists_of_map_eq_ok hi
      cases hSome
      exact ⟨t, rfl, ((site.refers t).value w hValue r).mp hr⟩

end Grouping

/-! The projection -/

/-- References that are to no key and no aggregate of a group. -/
def Ungrouped (Q : String → Prop) : Prop :=
  ∀ r, Q r → r.toList[1]? ≠ some '_' ∧ r.toList[1]? ≠ some 'A'

/-- A projected field is computed, and of some references it has those that the expression reads. -/
structure Reflects (Q : String → Prop) (site : Site) (field : String × Expression)
    (spec : String × Value) : Prop where
  name : spec.1 = field.1
  computed : Pipeline.flag? spec.2 = none
  reads : ∀ r, Q r → (r ∈ spec.2.freeReferences ↔ site.Reads field.2 r)

variable {Q : String → Prop} {site : Site}

theorem Projection.Writes.reflects {field : String × Expression} {spec : String × Value}
    (h : Writes site field spec) : Reflects Q site field spec := by
  obtain ⟨hName, o, ho, hSpec⟩ := h
  refine ⟨hName, ?_, fun r _ => ?_⟩
  · rw [hSpec]
    exact Operand.flag?_projected (site.structured_compile _ o ho)
  · rw [hSpec, Operand.mem_freeReferences_projected (Site.plain_compile _ o ho)]
    exact (site.refers _).operand o ho r

namespace Grouping

variable {g : Grouping}

theorem exists_operand?_of_aggregate? {e : Expression} {a : GroupAggregate}
    (h : g.aggregate? e.signature = some a) : ∃ o, g.operand? e = some o := by
  have hEntry : g.hasEntry e = true := by simp [hasEntry, h]
  obtain ⟨c, rfl⟩ | hOperand := exists_operand?_of_hasEntry hEntry
  · have hSignature := List.find?_some h
    simp [GroupAggregate.signature, Aggregate.signature, Expression.signature,
      Expression.normalized] at hSignature
  · exact hOperand

theorem not_aggregateField (hQ : Ungrouped Q) (hg : Numbered g.aggregates) {a : GroupAggregate}
    (ha : a ∈ g.aggregates) : ¬ Q ("$" ++ a.name) := by
  intro hr
  obtain ⟨index, _, hName⟩ := hg a ha
  exact (hQ _ hr).2 (by simp [hName])

theorem not_of_operand? (hQ : Ungrouped Q) (hg : Numbered g.aggregates) {e : Expression}
    {o : Operand} (h : g.operand? e = some o) {r : String} (hr : r ∈ o.freeReferences) : ¬ Q r := by
  obtain ⟨k, _, rfl⟩ | ⟨a, ha, rfl⟩ := exists_of_operand? h hr
  · exact fun hr => (hQ _ hr).1 (by simp)
  · exact not_aggregateField hQ hg ha

end Grouping

theorem Projection.WritesHelper.reflects (hQ : Ungrouped Q)
    (hg : Grouping.Numbered site.grouping.aggregates) {field : String × Expression}
    {spec : String × Value} (h : WritesHelper site field spec) : Reflects Q site field spec := by
  obtain ⟨hName, v, hv, hSpec⟩ := h
  have hValue : Pipeline.flag? v = none ∧
      ∀ r, Q r → (r ∈ v.freeReferences ↔ site.Reads field.2 r) := by
    unfold sortValue at hv
    split at hv
    · rename_i a ha
      cases hv
      refine ⟨rfl, fun r hr => ?_⟩
      -- Neither the aggregate nor what stands for the expression elsewhere is asked about.
      obtain ⟨o, ho⟩ := Grouping.exists_operand?_of_aggregate? ha
      rw [Site.reads_entry ho]
      constructor
      · intro hRead
        obtain ⟨_, rfl⟩ := Value.mem_freeReferences_string.mp hRead
        exact absurd hr (Grouping.not_aggregateField hQ hg (List.mem_of_find?_eq_some ha))
      · exact fun hRead => absurd hr (Grouping.not_of_operand? hQ hg ho hRead)
    · obtain ⟨o, ho, rfl⟩ := exists_of_map_eq_ok hv
      have hWrites : Writes site (spec.1, field.2) (spec.1, o.projected) := ⟨rfl, o, ho, rfl⟩
      have hReflects : Reflects Q site _ _ := hWrites.reflects
      exact ⟨hReflects.computed, hReflects.reads⟩
  split at hSpec
  · refine ⟨hName, ?_, fun r hr => ?_⟩
    · rw [hSpec]
      rfl
    · rw [hSpec, Value.mem_freeReferences_single (by decide)]
      exact hValue.2 r hr
  · exact ⟨hName, hSpec ▸ hValue.1, hSpec ▸ hValue.2⟩

theorem exists_lookup_of_forall₂ {R : String × Expression → String × Value → Prop}
    (hR : ∀ field spec, R field spec → spec.1 = field.1) {fields : List (String × Expression)}
    {specs : List (String × Value)} (h : List.Forall₂ R fields specs) (name : String) :
    (fields.lookup name = none ∧ specs.lookup name = none) ∨
      ∃ e v, fields.lookup name = some e ∧ specs.lookup name = some v ∧ R (name, e) (name, v) := by
  induction h with
  | nil => exact .inl ⟨rfl, rfl⟩
  | @cons field spec fields specs hHead _ ih =>
    obtain ⟨key, e⟩ := field
    obtain ⟨key', v⟩ := spec
    obtain rfl : key' = key := hR _ _ hHead
    rw [List.lookup_cons, List.lookup_cons]
    cases hKey : name == key' with
    | true =>
      obtain rfl := eq_of_beq hKey
      exact .inr ⟨e, v, rfl, rfl, hHead⟩
    | false => exact ih

def projectStage (specs : List (String × Value)) : Stage :=
  ⟨.project, .document (Fields.insertAll [("_id", .int32 0)] specs)⟩

section

variable {fields : List (String × Expression)} {specs : List (String × Value)}

theorem mem_projectStage {name : String} {v : Value} :
    (name, v) ∈ Fields.insertAll [("_id", .int32 0)] specs ↔
      specs.reverse.lookup name = some v ∨
        specs.reverse.lookup name = none ∧ (name, v) = ("_id", .int32 0) := by
  rw [Fields.mem_insertAll (by decide), List.mem_singleton]

theorem mem_of_mem_projectStage {field : String × Value}
    (h : field ∈ Fields.insertAll [("_id", .int32 0)] specs) :
    field ∈ specs ∨ field = ("_id", .int32 0) := by
  obtain hSome | ⟨_, hId⟩ := mem_projectStage.mp h
  · exact .inl (List.mem_reverse.mp (Fields.mem_of_get? hSome))
  · exact .inr hId

theorem mem_reads_projectStage (h : List.Forall₂ (Reflects Q site) fields specs) {r : String}
    (hr : Q r) :
    r ∈ (projectStage specs).reads ↔
      ∃ name e, fields.reverse.lookup name = some e ∧ site.Reads e r := by
  have hLookup := exists_lookup_of_forall₂ (fun _ _ h => h.name) (List.rel_reverse h)
  have hReads : r ∈ (projectStage specs).reads ↔
      ∃ field ∈ Fields.insertAll [("_id", .int32 0)] specs,
        r ∈ if Pipeline.flag? field.2 = some true then ["$" ++ field.1]
          else field.2.freeReferences := List.mem_flatMap
  rw [hReads]
  constructor
  · rintro ⟨⟨name, v⟩, hMem, hRead⟩
    obtain ⟨_, hNone⟩ | ⟨e, w, hField, hSpec, hReflects⟩ := hLookup name
    · obtain hSome | ⟨_, hId⟩ := mem_projectStage.mp hMem
      · rw [hNone] at hSome
        cases hSome
      · cases hId
        cases hRead
    · obtain hSome | ⟨hOther, _⟩ := mem_projectStage.mp hMem
      · obtain rfl := Option.some.inj (hSpec.symm.trans hSome)
        rw [hReflects.computed, if_neg (by simp)] at hRead
        exact ⟨name, e, hField, (hReflects.reads r hr).mp hRead⟩
      · rw [hSpec] at hOther
        cases hOther
  · rintro ⟨name, e, hField, hRead⟩
    obtain ⟨hNone, _⟩ | ⟨e', v, hField', hSpec, hReflects⟩ := hLookup name
    · rw [hNone] at hField
      cases hField
    · obtain rfl := Option.some.inj (hField'.symm.trans hField)
      refine ⟨(name, v), mem_projectStage.mpr (.inl hSpec), ?_⟩
      rw [hReflects.computed, if_neg (by simp)]
      exact (hReflects.reads r hr).mpr hRead

end

theorem Projection.Arranges.exists_of_mem_reads {names : List String} {stage : Stage}
    (h : Arranges names stage) {r : String} (hr : r ∈ stage.reads) :
    ∃ name ∈ names, r = "$" ++ name := by
  cases h with
  | sort h =>
    obtain ⟨field, hField, rfl⟩ := List.mem_map.mp hr
    exact ⟨field.1, h _ (List.mem_map.mpr ⟨field, hField, rfl⟩), rfl⟩
  | @keep kept h =>
    obtain ⟨⟨name, flag⟩, hField, hr⟩ := List.mem_flatMap.mp hr
    obtain hSome | ⟨_, hId⟩ := mem_projectStage.mp hField
    · have hMem := List.mem_reverse.mp (Fields.mem_of_get? hSome)
      obtain ⟨other, hOther, hPair⟩ := List.mem_map.mp hMem
      cases hPair
      exact ⟨name, h name hOther, by simpa [Pipeline.flag?] using hr⟩
    · cases hId
      cases hr
  | skip => cases hr
  | limit => cases hr

end RelPipe
