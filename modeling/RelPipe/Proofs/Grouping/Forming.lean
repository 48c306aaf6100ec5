import RelPipe.Proofs.Document.Preorder
import RelPipe.Proofs.Grouping.KeyNames
import RelPipe.Proofs.Grouping.Survival
import RelPipe.Proofs.Pipeline.Groups
import RelPipe.Proofs.Projection.Stages
import RelPipe.Rows.Materialize

/-!
Which groups a run of a statement forms. The identity of a group has no field for a key without a
value, so that documents without a value are in other groups than documents with null. Without keys
there is one group, or none if no document reaches the stage that forms them.
-/

namespace RelPipe

set_option autoImplicit false

open Pipeline

/-! Fields that are there -/

namespace Value

theorem compare_undefined_iff {v : Value} : compare .undefined v = .eq ↔ v = .undefined := by
  constructor
  · intro h
    cases v with
    | undefined => rfl
    | _ => cases h
  · rintro rfl
    rfl

theorem undefined_iff_of_compare {v w : Value} (h : v.compare w = .eq) :
    v = .undefined ↔ w = .undefined := by
  constructor
  · rintro rfl
    exact compare_undefined_iff.mp h
  · rintro rfl
    rw [← compare_undefined_iff, ← compare_swap, h]
    rfl

theorem isMissing_iff {v : Value} : v.isMissing = true ↔ v = .undefined := by
  cases v <;> simp [isMissing]

theorem presentOrNull_of_ne {v : Value} (h : v ≠ .undefined) : v.presentOrNull = v := by
  cases v with
  | undefined => exact absurd rfl h
  | _ => rfl

theorem eq_null_of_compare {v : Value} (h : compare .null v = .eq) : v = .null := by
  cases v with
  | null => rfl
  | _ => cases h

/-- Values that are equal only if null stands for what is missing. -/
theorem null_once_of_compare {v w : Value} (h : v.presentOrNull.compare w.presentOrNull = .eq)
    (hOther : v.compare w ≠ .eq) : v = .undefined ∧ w = .null ∨ v = .null ∧ w = .undefined := by
  by_cases hv : v = .undefined
  · subst hv
    have hw : w ≠ .undefined := mt compare_undefined_iff.mpr hOther
    rw [presentOrNull_of_ne hw] at h
    exact .inl ⟨rfl, eq_null_of_compare h⟩
  · rw [presentOrNull_of_ne hv] at h
    by_cases hw : w = .undefined
    · subst hw
      rw [← compare_swap, Ordering.swap_eq_eq] at h
      exact .inr ⟨eq_null_of_compare h, rfl⟩
    · rw [presentOrNull_of_ne hw] at h
      exact absurd h hOther

theorem compareFields_cons_iff {k l : String} {a b : Value} {as bs : List (String × Value)} :
    compareFields ((k, a) :: as) ((l, b) :: bs) = .eq ↔
      a.compare b = .eq ∧ k = l ∧ compareFields as bs = .eq := by
  rw [compareFields, Ordering.then_eq_eq, Ordering.then_eq_eq]
  refine and_congr_right fun _ => and_congr_left fun _ => ?_
  constructor
  · exact Text.eq_of_compare_eq
  · rintro rfl
    exact Text.compare_self k

theorem names_of_compareFields {as bs : List (String × Value)} (h : compareFields as bs = .eq) :
    as.map Prod.fst = bs.map Prod.fst := by
  induction as generalizing bs with
  | nil =>
    cases bs with
    | nil => rfl
    | cons => cases h
  | cons a as ih =>
    cases bs with
    | nil => cases h
    | cons b bs =>
      obtain ⟨_, hName, hRest⟩ := compareFields_cons_iff.mp h
      rw [List.map_cons, List.map_cons, hName, ih hRest]

section

variable {ι : Type} {name : ι → String} {f f' : ι → Value} {items : List ι}

variable (name : ι → String) in
/-- The fields of items that have a value. -/
def presentFields (f : ι → Value) : List ι → List (String × Value)
  | [] => []
  | i :: rest =>
    if (f i).isMissing then presentFields f rest else (name i, f i) :: presentFields f rest

theorem mem_names_presentFields {n : String}
    (h : n ∈ (presentFields name f items).map Prod.fst) : n ∈ items.map name := by
  induction items with
  | nil => cases h
  | cons i items ih =>
    rw [presentFields] at h
    split at h
    · exact .tail _ (ih h)
    · obtain rfl | h := List.mem_cons.mp h
      · exact .head _
      · exact .tail _ (ih h)

theorem get?_presentFields (hNames : (items.map name).Nodup) {i : ι} (hi : i ∈ items) :
    (Fields.get? (presentFields name f items) (name i)).getD .undefined = f i := by
  induction items with
  | nil => cases hi
  | cons j items ih =>
    obtain ⟨hFirst, hRest⟩ := List.nodup_cons.mp hNames
    rw [presentFields]
    obtain rfl | hi := List.mem_cons.mp hi
    · split
      · rename_i hMissing
        have hNone : Fields.get? (presentFields name f items) (name i) = none :=
          Fields.get?_eq_none_of_not_mem fun hMem => hFirst (mem_names_presentFields hMem)
        rw [hNone, isMissing_iff.mp hMissing]
        rfl
      · rw [Fields.get?_cons, if_pos rfl]
        rfl
    · have hOther : name j ≠ name i := fun hSame => hFirst (hSame ▸ List.mem_map_of_mem hi)
      split
      · exact ih hRest hi
      · rw [Fields.get?_cons, if_neg hOther]
        exact ih hRest hi

/-- Under different names, equal fields are those of items that are equal or missing in both. -/
theorem compareFields_presentFields_iff (hNames : (items.map name).Nodup) :
    compareFields (presentFields name f items) (presentFields name f' items) = .eq ↔
      ∀ i ∈ items, (f i).compare (f' i) = .eq := by
  induction items with
  | nil => simp [presentFields, compareFields]
  | cons i items ih =>
    obtain ⟨hFirst, hRest⟩ := List.nodup_cons.mp hNames
    -- The name of the first item is not that of a later one.
    have hOther : ∀ {g g' : ι → Value} {v : Value},
        compareFields ((name i, v) :: presentFields name g items)
          (presentFields name g' items) ≠ .eq := by
      intro g g' v hEqual
      have hSame := names_of_compareFields hEqual
      have hMem : name i ∈ (presentFields name g' items).map Prod.fst := by
        rw [← hSame]
        exact .head _
      exact hFirst (mem_names_presentFields hMem)
    rw [List.forall_mem_cons, ← ih hRest, presentFields, presentFields]
    by_cases hf : (f i).isMissing = true
    · rw [if_pos hf, isMissing_iff.mp hf, compare_undefined_iff, ← isMissing_iff]
      by_cases hf' : (f' i).isMissing = true
      · rw [if_pos hf', and_iff_right hf']
      · rw [if_neg hf']
        refine iff_of_false (fun hEqual => ?_) fun h => hf' h.1
        rw [← compareFields_swap, Ordering.swap_eq_eq] at hEqual
        exact hOther hEqual
    · rw [if_neg hf]
      by_cases hf' : (f' i).isMissing = true
      · rw [if_pos hf']
        refine iff_of_false hOther fun h => hf ?_
        rw [isMissing_iff, undefined_iff_of_compare h.1]
        exact isMissing_iff.mp hf'
      · rw [if_neg hf', compareFields_cons_iff, and_iff_right rfl]

end

end Value

/-! Runs of statements with groups -/

/-- What happens to the documents of a statement with groups: some reach the stage that forms the
groups, each group becomes a document, and the documents of the groups are shaped. -/
structure Statement.GroupedRun (s : Statement) (caseSensitive : Bool) (plan : Plan) (ctx : Context)
    (catalog : Catalog) (out : List Document) where
  before : List Stage
  body : Document
  after : List Stage
  reaching : List Document
  grouped : List Document
  working : List Document
  stages : plan.stages = before ++ ⟨.group, .document body⟩ :: after
  ungrouped : ∀ stage ∈ before, stage.kind ≠ .group
  writes : (Grouping.ofStatement s).stageDocument ⟨ctx.scope, .empty, caseSensitive⟩ = .ok body
  reaches : catalog.runPlan ⟨plan.collection, before⟩ = .ok reaching
  forms : groupStage [] body reaching = .ok grouped
  keeps : s.having = none → working = grouped
  shaping : s.Shaping ⟨ctx.scope, .ofStatement s, caseSensitive⟩ working
  pages : out = s.page shaping.kept
  collection : plan.collection = s.table

section

variable {s : Statement} {caseSensitive : Bool}

theorem Statement.exists_groupedRun (hGroups : (Grouping.ofStatement s).isEmpty = false)
    {plan : Plan} {ctx : Context} (h : s.compile caseSensitive = .ok (plan, ctx))
    {catalog : Catalog} {out : List Document} (hRun : catalog.runPlan plan = .ok out) :
    Nonempty (s.GroupedRun caseSensitive plan ctx catalog out) := by
  obtain ⟨⟨source, g⟩, hSource, h⟩ := exists_of_bind_eq_ok h
  obtain ⟨q, hProject, h⟩ := exists_of_bind_eq_ok h
  cases h
  obtain ⟨_, planned, _, _, hNarrow⟩ := s.exists_steps hSource
  obtain rfl : g = .ofStatement s := (Planning.exists_narrowed hNarrow).1
  have hScope : q.scope = source.scope := (Planning.extends_project hProject).1
  obtain ⟨rest, hRest⟩ := (Planning.extends_project hProject).2
  obtain ⟨specs, helperSpecs, _, _, hPlan⟩ := Planning.exists_stages_of_project hProject
  obtain ⟨working, hWorking, hShaping⟩ := Planning.exists_shaping hProject hRun
  obtain ⟨before, body, conditions, hStages, hUngrouped, hBody, hConditions⟩ :=
    exists_groupStage hGroups hSource
  rw [← hScope] at hShaping hBody
  obtain ⟨shaping, hPages⟩ := hShaping
  -- The documents are followed through the stages before, at and after the groups.
  have hSplit : source.plan = ⟨source.plan.collection,
      before ++ ([⟨.group, .document body⟩] ++ conditions)⟩ := by
    rw [List.singleton_append, ← hStages]
  rw [hSplit, runPlan_append] at hWorking
  obtain ⟨reaching, hReaching, hWorking⟩ := exists_of_bind_eq_ok hWorking
  rw [runStages_values_append, runStages_one] at hWorking
  obtain ⟨grouped, hGrouped, hWorking⟩ := exists_of_bind_eq_ok hWorking
  refine ⟨⟨before, body, conditions ++ rest, reaching, grouped, working, ?_, hUngrouped, hBody, ?_,
    (runStage_group catalog [] body reaching).symm.trans hGrouped, fun hNone => ?_, shaping,
    hPages, ?_⟩⟩
  · rw [← hRest, hStages, List.append_assoc, List.cons_append]
  · rw [hPlan]
    exact hReaching
  · obtain ⟨_, rfl⟩ | ⟨_, _, hSome, _⟩ := hConditions
    · exact (Except.ok.inj hWorking).symm
    · cases hNone.symm.trans hSome
  · rw [hPlan]
    exact collection_planSource hSource

end

/-! Groups by columns -/

namespace Grouping

/-- The keys in the identity of a group: the last one of each name, at the place of the first. -/
def keptKeys (g : Grouping) : List GroupKey :=
  (Fields.ofPairs (g.keys.map fun k => (k.name, k))).map Prod.snd

def keyIn (scope : Scope) (d : Document) (k : GroupKey) : Value :=
  match k.expression with
  | .column ref => Environment.reference ⟨d, []⟩ (scope.columnPath ref)
  | _ => .undefined

def identity (g : Grouping) (scope : Scope) (d : Document) : Document :=
  Value.presentFields GroupKey.name (keyIn scope d) g.keptKeys

def Alike (g : Grouping) (scope : Scope) (d d' : Document) : Prop :=
  ∀ k ∈ g.keptKeys, (keyIn scope d k).compare (keyIn scope d' k) = .eq

instance (g : Grouping) (scope : Scope) : DecidableRel (g.Alike scope) :=
  fun d d' => inferInstanceAs
    (Decidable (∀ k ∈ g.keptKeys, (keyIn scope d k).compare (keyIn scope d' k) = .eq))

/-- Documents are alike if null stands for every missing value. -/
def AlikeWithNulls (g : Grouping) (scope : Scope) (d d' : Document) : Prop :=
  ∀ k ∈ g.keptKeys,
    (keyIn scope d k).presentOrNull.compare (keyIn scope d' k).presentOrNull = .eq

section

variable {g : Grouping}

theorem eq_name_of_mem {pair : String × GroupKey}
    (h : pair ∈ Fields.ofPairs (g.keys.map fun k => (k.name, k))) :
    pair.2 ∈ g.keys ∧ pair.1 = pair.2.name := by
  obtain ⟨k, hk, rfl⟩ := List.mem_map.mp (Fields.mem_of_mem_ofPairs h)
  exact ⟨hk, rfl⟩

theorem mem_keys_of_mem_keptKeys {k : GroupKey} (h : k ∈ g.keptKeys) : k ∈ g.keys := by
  obtain ⟨pair, hPair, rfl⟩ := List.mem_map.mp h
  exact (eq_name_of_mem hPair).1

theorem nodup_names_keptKeys (g : Grouping) : (g.keptKeys.map GroupKey.name).Nodup := by
  have hNames : g.keptKeys.map GroupKey.name =
      (Fields.ofPairs (g.keys.map fun k => (k.name, k))).map Prod.fst := by
    rw [keptKeys, List.map_map]
    exact List.map_congr_left fun pair hPair => (eq_name_of_mem hPair).2.symm
  have hNone : Fields.Distinct ([] : Fields GroupKey) := List.nodup_nil
  rw [hNames]
  exact hNone.insertAll _

theorem keptKeys_of_nodup (h : (g.keys.map GroupKey.name).Nodup) : g.keptKeys = g.keys := by
  have hDistinct : Fields.Distinct (g.keys.map fun k => (k.name, k)) := by
    rw [Fields.Distinct, List.map_map]
    exact h
  rw [keptKeys, Fields.ofPairs_of_distinct hDistinct, List.map_map]
  exact List.map_id _

theorem forall₂_keptKeys {site : Site} {fields : List (String × Value)}
    (h : List.Forall₂ (WritesKey site) g.keys fields) :
    List.Forall₂ (WritesKey site) g.keptKeys (Fields.ofPairs fields) := by
  have hPairs : List.Forall₂
      (fun (pair : String × GroupKey) field => pair.1 = field.1 ∧ WritesKey site pair.2 field)
      (g.keys.map fun k => (k.name, k)) fields :=
    List.forall₂_map_left_iff.mpr (h.imp fun _ _ hWrites => ⟨hWrites.1.symm, hWrites⟩)
  have hKept := Fields.forall₂_insertAll (fun _ _ h => h.1) .nil hPairs
  exact List.forall₂_map_left_iff.mpr (hKept.imp fun _ _ h => h.2)

theorem compare_identity (g : Grouping) (scope : Scope) (d d' : Document) :
    (Value.document (g.identity scope d)).compare (.document (g.identity scope d')) = .eq ↔
      g.Alike scope d d' := by
  rw [Value.compare_documents, identity, identity]
  exact Value.compareFields_presentFields_iff g.nodup_names_keptKeys

end

theorem evaluateFields_columns {scope : Scope} {caseSensitive : Bool} {keys : List GroupKey}
    {fields : List (String × Value)}
    (h : List.Forall₂ (WritesKey ⟨scope, .empty, caseSensitive⟩) keys fields)
    (hColumns : ∀ k ∈ keys, ∃ ref, k.expression = .column ref) (d : Document) :
    evaluateFields ⟨d, []⟩ fields =
      .ok (Value.presentFields GroupKey.name (keyIn scope d) keys) := by
  induction h with
  | nil => rfl
  | @cons k field keys fields hWrites _ ih =>
    obtain ⟨⟨ref, hRef⟩, hRest⟩ := List.forall_mem_cons.mp hColumns
    obtain ⟨name, v⟩ := field
    obtain ⟨rfl, hValue⟩ := hWrites
    have hRead : keyIn scope d k = Environment.reference ⟨d, []⟩ (scope.columnPath ref) := by
      rw [keyIn, hRef]
    rw [hRef] at hValue
    obtain rfl : Value.string (scope.columnPath ref) = v := Except.ok.inj hValue
    rw [evaluateFields, evaluate, ih hRest, ← hRead]
    rfl

end Grouping

/-- Documents are grouped by columns. Those of a group have values for the same keys, and groups
whose keys are the same up to nulls have one that is null in one of them and missing in the other.
-/
structure Statement.GroupedRun.ByColumns {s : Statement} {caseSensitive : Bool} {plan : Plan}
    {ctx : Context} {catalog : Catalog} {out : List Document}
    (run : s.GroupedRun caseSensitive plan ctx catalog out) (groups : List DocumentGroup) :
    Prop where
  partitions : DocumentGroup.Partitions ((Grouping.ofStatement s).Alike ctx.scope)
    run.reaching groups
  reads : List.Forall₂ (fun g row => ∀ k ∈ (Grouping.ofStatement s).keptKeys, ∀ vars,
    evaluate ⟨row, vars⟩ (.string ("$_id." ++ k.name)) =
      .ok (Grouping.keyIn ctx.scope g.first k)) groups run.grouped
  missing : ∀ g ∈ groups, ∀ d ∈ g.documents, ∀ k ∈ (Grouping.ofStatement s).keptKeys,
    Grouping.keyIn ctx.scope g.first k = .undefined ↔ Grouping.keyIn ctx.scope d k = .undefined
  nulls : groups.Pairwise fun g later =>
    (Grouping.ofStatement s).AlikeWithNulls ctx.scope g.first later.first →
      ∃ k ∈ (Grouping.ofStatement s).keptKeys,
        Grouping.keyIn ctx.scope g.first k = .undefined ∧
            Grouping.keyIn ctx.scope later.first k = .null ∨
          Grouping.keyIn ctx.scope g.first k = .null ∧
            Grouping.keyIn ctx.scope later.first k = .undefined

section

variable {s : Statement} {caseSensitive : Bool} {plan : Plan} {ctx : Context} {catalog : Catalog}
  {out : List Document}

theorem Statement.isEmpty_of_groupBy (h : s.groupBy ≠ []) :
    (Grouping.ofStatement s).isEmpty = false := by
  rw [Grouping.isEmpty, List.isEmpty_eq_false_iff.mpr (keys_ne_nil h), Bool.false_and]

theorem Statement.GroupedRun.byColumns (run : s.GroupedRun caseSensitive plan ctx catalog out)
    (hGroupBy : s.groupBy ≠ []) (hColumns : ∀ e ∈ s.groupBy, ∃ ref, e = .column ref)
    (hDollar : ∀ k, (Grouping.ofStatement s).keptKeys = [k] → Text.dollar k.name = false) :
    run.ByColumns (DocumentGroup.ofDocuments ((Grouping.ofStatement s).Alike ctx.scope)
      run.reaching) := by
  obtain ⟨fields, accumulators, hFields, _, hBody⟩ := Grouping.exists_of_stageDocument run.writes
  have hSome : fields.isEmpty = false := by
    rw [List.isEmpty_eq_false_iff, ← List.length_pos_iff, ← hFields.length_eq, List.length_pos_iff]
    exact keys_ne_nil hGroupBy
  have hIdentity : Fields.get? run.body "_id" = some (.document (Fields.ofPairs fields)) := by
    rw [hBody, hSome, if_neg Bool.false_ne_true, Fields.get?_cons, if_pos rfl]
  have hKept := Grouping.forall₂_keptKeys hFields
  have hColumn : ∀ k ∈ (Grouping.ofStatement s).keptKeys, ∃ ref, k.expression = .column ref :=
    fun k hk => hColumns k.expression
      (Grouping.mem_groupBy_of_mem_keys (Grouping.mem_keys_of_mem_keptKeys hk))
  have hKeys : ∀ d ∈ run.reaching, evaluate ⟨d, []⟩ (.document (Fields.ofPairs fields)) =
      .ok (.document ((Grouping.ofStatement s).identity ctx.scope d)) ∧
      (Value.document ((Grouping.ofStatement s).identity ctx.scope d)).presentOrNull =
        .document ((Grouping.ofStatement s).identity ctx.scope d) := by
    intro d _
    rw [evaluate_keys hKept hDollar, Grouping.evaluateFields_columns hKept hColumn d]
    exact ⟨rfl, rfl⟩
  have hIdentities := identities_groupStage
    (fun d d' => ((Grouping.ofStatement s).compare_identity ctx.scope d d').symm) hIdentity hKeys
    run.forms
  have hPartitions : DocumentGroup.Partitions ((Grouping.ofStatement s).Alike ctx.scope)
      run.reaching _ := DocumentGroup.partitions_ofDocuments run.reaching
  refine ⟨hPartitions, hIdentities.imp fun g row hRow k hk vars => ?_, fun g hg d hd k hk => ?_,
    hPartitions.apart.imp fun hApart hNulls => ?_⟩
  · have hDot := Grouping.dot_not_mem_of_mem_keys (Grouping.mem_keys_of_mem_keptKeys hk)
    rw [evaluate_keyReference hRow hDot]
    exact congrArg Except.ok (Value.get?_presentFields (Grouping.nodup_names_keptKeys _) hk)
  · obtain rfl | hd := List.mem_cons.mp hd
    · rfl
    · exact Value.undefined_iff_of_compare (hPartitions.alike g hg d hd k hk)
  · have hFirst := hApart _ (.head _)
    obtain ⟨k, hk⟩ := not_forall.mp hFirst
    obtain ⟨hMem, hOther⟩ := Classical.not_imp.mp hk
    exact ⟨k, hMem, Value.null_once_of_compare (hNulls k hMem) hOther⟩

/-- The groups of a statement that groups by columns. -/
theorem Statement.exists_groups_of_columns (hGroupBy : s.groupBy ≠ [])
    (hColumns : ∀ e ∈ s.groupBy, ∃ ref, e = .column ref)
    (hDollar : ∀ k, (Grouping.ofStatement s).keptKeys = [k] → Text.dollar k.name = false)
    (h : s.compile caseSensitive = .ok (plan, ctx)) (hRun : catalog.runPlan plan = .ok out) :
    ∃ (run : s.GroupedRun caseSensitive plan ctx catalog out) (groups : List DocumentGroup),
      run.ByColumns groups := by
  obtain ⟨run⟩ := exists_groupedRun (isEmpty_of_groupBy hGroupBy) h hRun
  exact ⟨run, _, run.byColumns hGroupBy hColumns hDollar⟩

end

namespace Statement

def itemsByOwner : Statement :=
  { Statement.empty with
    table := "Items"
    aliasName := some "i"
    operands := [⟨.column ⟨some "i", "Owner", .int32⟩, some "Owner"⟩,
      ⟨.aggregate ⟨.count, none, none⟩, some "n"⟩]
    groupBy := [.column ⟨some "i", "Owner", .int32⟩] }

def unownedItems : Catalog :=
  [("Items", [[("Id", .int32 1), ("Owner", .null)], [("Id", .int32 2)],
    [("Id", .int32 3), ("Owner", .int32 7)], [("Id", .int32 4)]])]

theorem exists_groups_of_unownedItems :
    ∃ plan ctx out, itemsByOwner.compile false = .ok (plan, ctx) ∧
      unownedItems.runPlan plan = .ok out ∧
      ∃ (run : itemsByOwner.GroupedRun false plan ctx unownedItems out)
        (groups : List DocumentGroup), run.ByColumns groups := by
  have hRuns : ∃ plan ctx out, itemsByOwner.compile false = .ok (plan, ctx) ∧
      unownedItems.runPlan plan = .ok out := ⟨_, _, _, rfl, rfl⟩
  obtain ⟨plan, ctx, out, h, hRun⟩ := hRuns
  refine ⟨plan, ctx, out, h, hRun, exists_groups_of_columns (List.cons_ne_nil _ _) ?_ ?_ h hRun⟩
  · exact List.forall_mem_singleton.mpr ⟨_, rfl⟩
  · intro k hk
    rw [Grouping.keptKeys_of_nodup (by decide)] at hk
    cases hk
    decide

/-- The items without an owner are counted in two rows. -/
theorem materialize_unownedItems :
    ∃ plan ctx out, itemsByOwner.compile false = .ok (plan, ctx) ∧
      unownedItems.runPlan plan = .ok out ∧
      itemsByOwner.materialize out =
        [[.null, .int32 1], [.null, .int32 2], [.int32 7, .int32 1]] :=
  ⟨_, _, _, rfl, rfl, rfl⟩

end Statement

/-! Totals -/

namespace Pipeline

theorem runStage_nil {catalog : Catalog} {vars : Variables} {stage : Stage} {out : List Document}
    (h : runStage catalog vars (.document stage.toDocument) [] = .ok out) : out = [] := by
  obtain ⟨kind, body⟩ := stage
  rw [Stage.toDocument, runStage_ofKind] at h
  cases kind with
  | lookup =>
    obtain ⟨_, _, h⟩ := exists_of_bind_eq_ok h
    obtain ⟨_, _, h⟩ := exists_of_bind_eq_ok h
    cases h
    rfl
  | group =>
    obtain ⟨fields, _, h⟩ := exists_of_bind_eq_ok h
    cases hKey : Fields.get? fields "_id" with
    | none =>
      rw [groupStage, hKey] at h
      cases h
    | some key =>
      rw [groupStage, hKey] at h
      obtain ⟨_, _, h⟩ := exists_of_bind_eq_ok h
      cases h
      rfl
  | unwind =>
    obtain ⟨_, _, h⟩ := exists_of_bind_eq_ok h
    unfold unwindStage at h
    split at h
    · cases h
    · cases h
      rfl
  | skip | limit =>
    obtain ⟨n, _, h⟩ := exists_of_bind_eq_ok h
    cases h
    cases n <;> rfl
  | filter | project | addFields | sort =>
    obtain ⟨_, _, h⟩ := exists_of_bind_eq_ok h
    cases h
    rfl

theorem runStages_nil {catalog : Catalog} {vars : Variables} {stages : List Stage}
    {out : List Document} (h : runStages catalog vars (Stage.values stages) [] = .ok out) :
    out = [] := by
  induction stages generalizing out with
  | nil =>
    cases h
    rfl
  | cons stage stages ih =>
    rw [← List.singleton_append, runStages_values_append, runStages_one] at h
    obtain ⟨documents, hFirst, h⟩ := exists_of_bind_eq_ok h
    obtain rfl := runStage_nil hFirst
    exact ih h

namespace DocumentGroup

theorem Partitions.eq_nil_iff {same : Document → Document → Prop} {documents : List Document}
    {groups : List DocumentGroup} (h : Partitions same documents groups) :
    groups = [] ↔ documents = [] := by
  constructor
  · rintro rfl
    exact h.once.symm.eq_nil
  · rintro rfl
    exact List.map_eq_nil_iff.mp (List.sublist_nil.mp h.order)

theorem Partitions.length_of_alike {same : Document → Document → Prop} {documents : List Document}
    {groups : List DocumentGroup} (h : Partitions same documents groups)
    (hSame : ∀ d d', same d d') : groups.length = if documents = [] then 0 else 1 := by
  simp only [← h.eq_nil_iff]
  match groups, h.apart with
  | [], _ => rfl
  | [_], _ => rfl
  | g :: later :: _, hApart =>
    have hOther := (List.pairwise_cons.mp hApart).1 later (.head _) later.first (.head _)
    exact absurd (hSame _ _) hOther

end DocumentGroup

end Pipeline

theorem Statement.Shaping.length_kept {s : Statement} {site : Site} {working : List Document}
    (shaping : s.Shaping site working) : shaping.kept.length = working.length := by
  have hSorted : shaping.sorted.length = working.length :=
    shaping.orders.length_eq.symm.trans shaping.projects.length_eq.symm
  have hKeeps := shaping.keeps
  split at hKeeps
  · rw [hKeeps, hSorted]
  · rw [← hKeeps.length_eq, hSorted]

theorem Statement.page_of_length_le_one {s : Statement} (hSkip : s.skip = none)
    {documents : List Document} (h : documents.length ≤ 1) : s.page documents = documents := by
  have hOne : ∀ {n : Nat}, n ≠ 0 → documents.take n = documents :=
    fun hn => List.take_of_length_le (by omega)
  rw [page, hSkip]
  cases hLimit : s.limit with
  | none => rfl
  | some n =>
    change ((if n = 0 then none else some (min n.toNat 0x7fffffffffffffff) : Option Nat)).elim
      documents documents.take = documents
    split
    · rfl
    · rename_i hn
      have hPositive : n.toNat ≠ 0 := fun hZero => hn (UInt64.toNat_inj.mp hZero)
      exact hOne (by omega)

/-- A statement shows aggregates over all of its documents. -/
structure Statement.Totals (s : Statement) : Prop where
  groupBy : s.groupBy = []
  having : s.having = none
  skip : s.skip = none
  operands : s.operands ≠ []
  aggregates : ∀ o ∈ s.operands, ∃ kind target, o.expression = .aggregate ⟨kind, target, none⟩

section

variable {s : Statement} {caseSensitive : Bool} {plan : Plan} {ctx : Context} {catalog : Catalog}
  {out : List Document}

theorem Statement.Totals.isEmpty (hs : s.Totals) : (Grouping.ofStatement s).isEmpty = false := by
  obtain ⟨o, ho⟩ := List.exists_mem_of_ne_nil _ hs.operands
  obtain ⟨kind, target, hAggregate⟩ := hs.aggregates o ho
  have hFound := Grouping.find?_foldl_addAggregate [] ((s.operands.map (·.expression) ++
    s.having.toList ++ s.sorts.map (·.expression)).flatMap Expression.localAggregates)
    (Aggregate.signature ⟨kind, target, none⟩)
  have hSome : (Grouping.ofStatement s).aggregates ≠ [] := by
    intro hNil
    change ((Grouping.ofStatement s).aggregates.find? _).map _ = _ at hFound
    rw [hNil, List.map_nil, List.nil_append] at hFound
    have hNone := List.find?_eq_none.mp hFound.symm ⟨kind, target, none⟩ ?_
    · simp at hNone
    · refine List.mem_flatMap.mpr ⟨o.expression, ?_, ?_⟩
      · rw [List.append_assoc]
        exact List.mem_append_left _ (List.mem_map_of_mem ho)
      · rw [hAggregate]
        exact .head _
  rw [Grouping.isEmpty, List.isEmpty_eq_false_iff.mpr hSome, Bool.and_false]

theorem Statement.Totals.length_grouped (hs : s.Totals)
    (run : s.GroupedRun caseSensitive plan ctx catalog out) :
    run.grouped.length = if run.reaching = [] then 0 else 1 := by
  have hKeys : (Grouping.ofStatement s).keys = [] := by
    rw [Grouping.ofStatement, hs.groupBy]
    rfl
  have hNames : ((Grouping.ofStatement s).keys.map GroupKey.name).Nodup := by
    rw [hKeys]
    exact List.nodup_nil
  obtain ⟨fields, hFields, _, hIdentity⟩ := identity_of_stageDocument hNames run.writes
  rw [hKeys, List.forall₂_nil_left_iff] at hFields
  subst hFields
  -- Every document has the same key, which is null.
  have hIdentities := @identities_groupStage (fun _ _ => True) _ (fun _ => .null)
    (fun _ _ => (iff_true_intro rfl).symm) [] _ _ hIdentity _ (fun _ _ => ⟨rfl, rfl⟩) _ run.forms
  rw [← hIdentities.length_eq]
  exact (DocumentGroup.partitions_ofDocuments run.reaching).length_of_alike fun _ _ => trivial

/-- Aggregates over all documents are shown in one row, or in none if there are no documents. -/
theorem Statement.length_totals (hs : s.Totals) (h : s.compile caseSensitive = .ok (plan, ctx))
    (hRun : catalog.runPlan plan = .ok out) :
    ∃ run : s.GroupedRun caseSensitive plan ctx catalog out,
      (s.materialize out).length = (if run.reaching = [] then 0 else 1) ∧
        (catalog.collection s.table = [] → run.reaching = []) := by
  obtain ⟨run⟩ := exists_groupedRun hs.isEmpty h hRun
  have hKept : run.shaping.kept.length = if run.reaching = [] then 0 else 1 := by
    rw [run.shaping.length_kept, run.keeps hs.having, hs.length_grouped run]
  have hOne : run.shaping.kept.length ≤ 1 := by
    rw [hKept]
    split <;> omega
  refine ⟨run, ?_, fun hNone => ?_⟩
  · have hPage : out = run.shaping.kept :=
      run.pages.trans (page_of_length_le_one hs.skip hOne)
    rw [materialize, List.length_map, ← hKept]
    exact congrArg List.length hPage
  · have hReaches : runStages catalog [] (Stage.values run.before)
        (catalog.collection plan.collection) = .ok run.reaching := run.reaches
    rw [run.collection, hNone] at hReaches
    exact runStages_nil hReaches

end

namespace Statement

def numberOfItems : Statement :=
  { Statement.empty with
    table := "Items"
    aliasName := some "i"
    operands := [⟨.aggregate ⟨.count, none, none⟩, some "n"⟩] }

theorem totals_numberOfItems : numberOfItems.Totals :=
  ⟨rfl, rfl, rfl, List.cons_ne_nil _ _, List.forall_mem_singleton.mpr ⟨_, _, rfl⟩⟩

theorem length_totals_numberOfItems :
    numberOfItems.Totals ∧ ∃ plan ctx out, numberOfItems.compile false = .ok (plan, ctx) ∧
      unownedItems.runPlan plan = .ok out ∧ numberOfItems.materialize out = [[.int32 4]] ∧
      ∃ run : numberOfItems.GroupedRun false plan ctx unownedItems out,
        (numberOfItems.materialize out).length = (if run.reaching = [] then 0 else 1) ∧
          (unownedItems.collection numberOfItems.table = [] → run.reaching = []) := by
  have hRuns : ∃ plan ctx out, numberOfItems.compile false = .ok (plan, ctx) ∧
      unownedItems.runPlan plan = .ok out ∧ numberOfItems.materialize out = [[.int32 4]] :=
    ⟨_, _, _, rfl, rfl, rfl⟩
  obtain ⟨plan, ctx, out, h, hRun, hRows⟩ := hRuns
  exact ⟨totals_numberOfItems, plan, ctx, out, h, hRun, hRows,
    length_totals totals_numberOfItems h hRun⟩

/-- No items are not counted as zero. -/
theorem materialize_numberOfItems :
    numberOfItems.Totals ∧ ∃ plan ctx out, numberOfItems.compile false = .ok (plan, ctx) ∧
      Catalog.runPlan [("Items", [])] plan = .ok out ∧ numberOfItems.materialize out = [] :=
  ⟨totals_numberOfItems, _, _, _, rfl, rfl, rfl⟩

end Statement

end RelPipe
