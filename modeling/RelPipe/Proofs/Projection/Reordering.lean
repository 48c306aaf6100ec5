import Mathlib.Data.List.Perm.Basic
import RelPipe.Proofs.CaselessMap
import RelPipe.Proofs.Projection.Stages

/-!
Sort keys only put documents in order. What is sorted by may need fields of its own, which are
projected beside those of the operands and dropped after the sort. This leaves the documents as they
are as long as the two kinds of fields have different names, and the names of the operands are
different in any letter case, since the set of names that are kept knows no letter case.
-/

namespace RelPipe

set_option autoImplicit false

open Pipeline CaselessMap

namespace Statement

def unsorted (s : Statement) : Statement := { s with sorts := [] }

/-- Fields that are only sorted by can be dropped again. -/
structure SeparatesHelpers (s : Statement) : Prop where
  names : (OutputColumn.fieldNames s.operands).Pairwise fun a b => sameName a b = false
  helpers : ∀ name ∈ (s.helpers (.ofStatement s)).map Prod.fst,
    name ∉ OutputColumn.fieldNames s.operands

/-- The sort keys of a statement only permute the documents of its results. -/
def Reorders (s : Statement) : Prop :=
  ∀ (caseSensitive : Bool) (plan plan' : Plan) (ctx ctx' : Context) (catalog : Catalog)
    (documents documents' : List Document), s.compile caseSensitive = .ok (plan, ctx) →
    s.unsorted.compile caseSensitive = .ok (plan', ctx') → catalog.runPlan plan = .ok documents →
    catalog.runPlan plan' = .ok documents' → documents.Perm documents'

def SortsPlainly (s : Statement) : Prop := ∀ key ∈ s.sorts, ∀ a, ¬ key.expression.HasSubquery a

end Statement

/-! The same source -/

theorem Expression.plan_of_not_hasSubquery {caseSensitive : Bool} {e : Expression}
    (h : ∀ a, ¬ e.HasSubquery a) (p : Planning) : e.plan caseSensitive p = .ok p := by
  induction e using Expression.local_induction with
  | step e ih =>
    have hPlain : ∀ kind target s, e ≠ .aggregate ⟨kind, target, some s⟩ := by
      rintro kind target s rfl
      exact h _ (.self _)
    rw [Expression.plan_eq_planAll caseSensitive hPlain]
    refine Expression.planAll_of_forall fun c hc => ih c hc fun a ha => ?_
    exact h a (Expression.hasSubquery_iff.mpr (.inr ⟨c, hc, ha⟩))

namespace Statement

variable {s : Statement}

theorem SortsPlainly.ofStatement_unsorted (h : s.SortsPlainly) :
    Grouping.ofStatement s.unsorted = Grouping.ofStatement s := by
  have hNone : (s.sorts.map (·.expression)).flatMap Expression.localAggregates = [] := by
    refine List.flatMap_eq_nil_iff.mpr fun e he => List.eq_nil_iff_forall_not_mem.mpr fun a ha => ?_
    obtain ⟨key, hKey, rfl⟩ := List.mem_map.mp he
    exact h key hKey a (Expression.localPart_of_mem_localAggregates _ ha).1
  simp only [Grouping.ofStatement, unsorted, List.flatMap_append, hNone, List.map_nil,
    List.flatMap_nil]

theorem SortsPlainly.planSource_unsorted (h : s.SortsPlainly) (caseSensitive : Bool)
    (cs : Correlations) : s.unsorted.planSource caseSensitive cs = s.planSource caseSensitive cs := by
  have hSorts : ∀ p, Expression.planAll caseSensitive (s.sorts.map (·.expression)) p = .ok p := by
    intro p
    refine Expression.planAll_of_forall fun e he => ?_
    obtain ⟨key, hKey, rfl⟩ := List.mem_map.mp he
    exact Expression.plan_of_not_hasSubquery (h key hKey) p
  have hNarrow : ∀ p : Planning, p.narrow caseSensitive s.unsorted = p.narrow caseSensitive s := by
    intro p
    rw [Planning.narrow, Planning.narrow, h.ofStatement_unsorted]
    rfl
  have hExpressions : ∀ p, Expression.planAll caseSensitive s.unsorted.expressions p =
      Expression.planAll caseSensitive s.expressions p := by
    intro p
    have hSplit : s.expressions = s.unsorted.expressions ++ s.sorts.map (·.expression) := by
      simp [expressions, unsorted]
    rw [hSplit, Expression.planAll_append]
    cases Expression.planAll caseSensitive s.unsorted.expressions p with
    | error => rfl
    | ok q => exact (hSorts q).symm
  rw [planSource_eq, planSource_eq]
  simp only [hNarrow, hExpressions]
  rfl

end Statement

/-! The fields that are kept -/

namespace Pipeline

/-- Two projections give a field the same value, each on its own document. -/
def Agrees (env env' : Environment) (field other : String × Value) : Prop :=
  field.1 = other.1 ∧ projected env field.1 field.2 = projected env' other.1 other.2

theorem projectFields_congr {env env' : Environment} {body others : Document}
    (h : List.Forall₂ (Agrees env env') body others) :
    projectFields env body = projectFields env' others := by
  induction h with
  | nil => rfl
  | @cons field other _ _ hField _ ih =>
    obtain ⟨hName, hValue⟩ := hField
    rw [projectFields_cons, projectFields_cons, hValue, ih, hName]

/-- Keeping the fields that are written first undoes what is written after them. -/
theorem project_kept {vars : Variables} {specs helperSpecs : List (String × Value)}
    (hPlain : ∀ spec ∈ specs, '.' ∉ spec.1.toList) (hDistinct : Fields.Distinct specs)
    (hOthers : ∀ name ∈ helperSpecs.map Prod.fst, name ∉ specs.map Prod.fst) {d row : Document}
    (h : project vars (Fields.insertAll [("_id", .int32 0)] (specs ++ helperSpecs)) d = .ok row) :
    project vars (Fields.insertAll [("_id", .int32 0)] (specs.map fun spec => (spec.1, .int32 1)))
      row = project vars (Fields.insertAll [("_id", .int32 0)] specs) d := by
  rw [project_eq_projectFields, project_eq_projectFields]
  refine projectFields_congr (Fields.forall₂_insertAll (fun _ _ h => h.1) ?_ ?_)
  · exact .cons ⟨rfl, rfl⟩ .nil
  · rw [List.forall₂_map_left_iff, List.forall₂_same]
    rintro ⟨name, spec⟩ hSpec
    refine ⟨rfl, ?_⟩
    have hName : name ∉ (helperSpecs.reverse).map Prod.fst := by
      rw [List.map_reverse, List.mem_reverse]
      exact fun hOther => hOthers name hOther (List.mem_map.mpr ⟨_, hSpec, rfl⟩)
    have hWritten : Fields.get? (specs ++ helperSpecs).reverse name = some spec := by
      have hNone : Fields.get? helperSpecs.reverse name = none :=
        Fields.get?_eq_none_of_not_mem hName
      have hSome : Fields.get? specs.reverse name = some spec :=
        (hDistinct.get?_reverse name).trans (Fields.get?_of_mem hDistinct hSpec)
      rw [List.reverse_append]
      exact List.lookup_append.trans (by rw [← Fields.get?, ← Fields.get?, hNone, hSome]; rfl)
    have hRead := (get?_of_project_last h).2 name
    rw [hWritten, Option.elim_some] at hRead
    change Except.ok (row.path? name) = projected ⟨d, vars⟩ name spec
    rw [hRead, Document.path?_of_plain row (hPlain _ hSpec)]

end Pipeline

namespace Statement

variable {s : Statement} {site : Site} {working : List Document}

theorem keys_outline (h : (OutputColumn.fieldNames s.operands).Pairwise
    fun a b => sameName a b = false) :
    s.outline.names.keys = OutputColumn.fieldNames s.operands := by
  have hNames : ((s.operands.zip (OutputColumn.fieldNames s.operands)).map
      fun column => (column.2, ())).map Prod.fst = OutputColumn.fieldNames s.operands := by
    refine Eq.trans ?_ s.names_outputs
    rw [outputs, Projection.outputs, List.map_map, List.map_map]
    rfl
  have hPairs := hNames ▸ h
  rw [List.pairwise_map] at hPairs
  exact (CaselessMap.keys_ofList hPairs).trans hNames

/-- The projection that drops what was only sorted by leaves what there would be without it. -/
theorem SeparatesHelpers.project_final (h : s.SeparatesHelpers)
    {specs helperSpecs : List (String × Value)}
    (hSpecs : List.Forall₂ (Projection.Writes site) s.outputs specs)
    (hHelpers : List.Forall₂ (Projection.WritesHelper site) (s.helpers (.ofStatement s)) helperSpecs)
    {d row : Document}
    (hRow : project [] (Fields.insertAll [("_id", .int32 0)] (specs ++ helperSpecs)) d = .ok row) :
    project [] s.outline.final row = project [] (Fields.insertAll [("_id", .int32 0)] specs) d := by
  have hNames : specs.map Prod.fst = OutputColumn.fieldNames s.operands :=
    (names_eq_of_forall₂ (fun _ _ h => h.1) hSpecs).trans s.names_outputs
  have hOthers : helperSpecs.map Prod.fst = (s.helpers (.ofStatement s)).map Prod.fst :=
    names_eq_of_forall₂ (fun _ _ h => h.1) hHelpers
  have hFinal : s.outline.final = Fields.insertAll [("_id", .int32 0)]
      (specs.map fun spec => (spec.1, .int32 1)) := by
    rw [Projection.final, keys_outline h.names, ← hNames, List.map_map]
    rfl
  have hDistinct : Fields.Distinct specs := by
    rw [Fields.Distinct, hNames]
    refine h.names.imp fun hOther hSame => ?_
    rw [hSame, sameName_self] at hOther
    cases hOther
  rw [hFinal]
  refine project_kept (fun spec hSpec => ?_) hDistinct ?_ hRow
  · have hName : spec.1 ∈ OutputColumn.fieldNames s.operands :=
      hNames ▸ List.mem_map.mpr ⟨spec, hSpec, rfl⟩
    exact OutputColumn.not_mem_fieldNames (.inl rfl) hName
  · rw [hOthers, hNames]
    exact h.helpers

theorem rightUnique_writes (site : Site) : Relator.RightUnique (Projection.Writes site) := by
  rintro field ⟨name, v⟩ ⟨name', w⟩ ⟨rfl, o, ho, rfl⟩ ⟨rfl, o', ho', rfl⟩
  obtain rfl := Except.ok.inj (ho.symm.trans ho')
  rfl

theorem rightUnique_ok {α β ε : Type} (f : α → Except ε β) :
    Relator.RightUnique fun a b => f a = .ok b :=
  fun _ _ _ h h' => Except.ok.inj (h.symm.trans h')

theorem Shaping.perm_kept {scope : Scope} {caseSensitive : Bool}
    (shaping : s.Shaping ⟨scope, .ofStatement s, caseSensitive⟩ working)
    (other : s.unsorted.Shaping ⟨scope, .ofStatement s, caseSensitive⟩ working)
    (h : s.helpers (.ofStatement s) = [] ∨ s.SeparatesHelpers) : shaping.kept.Perm other.kept := by
  obtain ⟨hRows, _, hKept⟩ := other.forall₂_sorted rfl
  have hSpecs : other.specs = shaping.specs :=
    List.right_unique_forall₂' (rightUnique_writes _) other.writes shaping.writes
  rw [hSpecs] at hRows
  rw [hKept rfl]
  by_cases hNone : s.helpers (.ofStatement s) = []
  · obtain ⟨hOwn, hPerm, _⟩ := shaping.forall₂_sorted hNone
    rw [List.right_unique_forall₂' (rightUnique_ok _) hRows hOwn]
    exact hPerm.symm
  · have hSeparates : s.SeparatesHelpers := h.resolve_left hNone
    have hKeeps := shaping.keeps
    rw [if_neg hNone] at hKeeps
    -- The documents without sort keys are those with them, after the fields are dropped.
    have hDropped : List.Forall₂ (fun row d => project [] s.outline.final row = .ok d)
        shaping.rows other.rows := by
      have hProjects : List.Forall₂ (flip fun d row => project [] (Fields.insertAll
          [("_id", .int32 0)] (shaping.specs ++ shaping.helperSpecs)) d = .ok row)
          shaping.rows working := .flip shaping.projects
      refine forall₂_comp hProjects hRows fun row d kept hRow hKept => ?_
      rw [hSeparates.project_final shaping.writes shaping.writesHelpers hRow]
      exact hKept
    exact List.rel_perm_imp (rightUnique_ok _) hKeeps hDropped shaping.orders.symm

/-- Sort keys put the documents of a result in order and leave them as they are. -/
theorem reorders (hSorts : s.SortsPlainly) (hSkip : s.skip = none) (hLimit : s.limit = none)
    (hHelpers : s.helpers (.ofStatement s) = [] ∨ s.SeparatesHelpers) : s.Reorders := by
  intro caseSensitive plan plan' ctx ctx' catalog documents documents' h h' hRun hRun'
  obtain ⟨source, working, hSource, hWorking, shaping, rfl⟩ := exists_shaping_of_run h hRun
  obtain ⟨source', working', hSource', hWorking', hOther⟩ := exists_shaping_of_run h' hRun'
  rw [hSorts.ofStatement_unsorted] at hOther
  obtain ⟨other, rfl⟩ := hOther
  rw [hSorts.planSource_unsorted, hSource] at hSource'
  obtain rfl := congrArg Prod.fst (Except.ok.inj hSource')
  obtain rfl := Except.ok.inj (hWorking.symm.trans hWorking')
  have hPage : ∀ documents, s.page documents = documents := by
    intro documents
    rw [page, hSkip, hLimit]
    rfl
  have hPage' : ∀ documents, s.unsorted.page documents = documents := hPage
  rw [hPage, hPage']
  exact shaping.perm_kept other hHelpers

def namesByValue (field : String) : Statement :=
  { Statement.empty with
    table := "Items"
    aliasName := some "i"
    operands := [⟨.column ⟨some "i", "Name", .string⟩, some field⟩]
    sorts := [⟨.column ⟨some "i", "Value", .int32⟩, .ascending⟩] }

theorem sortsPlainly_namesByValue (field : String) : (namesByValue field).SortsPlainly := by
  intro key hKey a ha
  obtain rfl := List.mem_singleton.mp hKey
  cases ha with
  | child hc _ => cases hc

def twoItems : Catalog :=
  [("Items", [[("Name", .string "b"), ("Value", .int32 2)],
    [("Name", .string "a"), ("Value", .int32 1)]])]

theorem reorders_namesByValue :
    (namesByValue "Name").helpers (.ofStatement (namesByValue "Name")) ≠ [] ∧
      ∃ plan plan' ctx ctx', (namesByValue "Name").compile false = .ok (plan, ctx) ∧
        (namesByValue "Name").unsorted.compile false = .ok (plan', ctx') ∧
        ∃ documents documents', twoItems.runPlan plan = .ok documents ∧
          twoItems.runPlan plan' = .ok documents' ∧ documents ≠ documents' ∧
          documents.Perm documents' := by
  have hReorders : (namesByValue "Name").Reorders :=
    reorders (sortsPlainly_namesByValue "Name") rfl rfl (.inr ⟨by decide, by decide⟩)
  have hRuns : ∃ plan plan' ctx ctx', (namesByValue "Name").compile false = .ok (plan, ctx) ∧
      (namesByValue "Name").unsorted.compile false = .ok (plan', ctx') ∧
      twoItems.runPlan plan = .ok [[("Name", .string "a")], [("Name", .string "b")]] ∧
      twoItems.runPlan plan' = .ok [[("Name", .string "b")], [("Name", .string "a")]] :=
    ⟨_, _, _, _, rfl, rfl, rfl, rfl⟩
  obtain ⟨plan, plan', ctx, ctx', h, h', hRun, hRun'⟩ := hRuns
  exact ⟨List.cons_ne_nil _ _, plan, plan', ctx, ctx', h, h', _, _, hRun, hRun', by simp,
    hReorders _ _ _ _ _ _ _ _ h h' hRun hRun'⟩

/-- A field that is called like one that is only sorted by is overwritten. -/
theorem not_reorders_namesByValue :
    (namesByValue "_sort0").SortsPlainly ∧
      (namesByValue "_sort0").skip = none ∧ (namesByValue "_sort0").limit = none ∧
      (OutputColumn.fieldNames (namesByValue "_sort0").operands).Nodup ∧
      ¬ (namesByValue "_sort0").Reorders := by
  refine ⟨sortsPlainly_namesByValue "_sort0", rfl, rfl, by decide, fun hReorders => ?_⟩
  have hPerm := hReorders false _ _ _ _ twoItems [[("_sort0", .int32 1)], [("_sort0", .int32 2)]]
    [[("_sort0", .string "b")], [("_sort0", .string "a")]] rfl rfl rfl rfl
  have hMem := hPerm.mem_iff.mp (.head _)
  simp at hMem

end Statement

end RelPipe
