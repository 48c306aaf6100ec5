import RelPipe.Proofs.Pipeline.Running
import RelPipe.Proofs.Pipeline.Sorting
import RelPipe.Proofs.Planning.StageReads
import RelPipe.Proofs.Planning.Steps

/-!
The stages from the projection of a statement on, one by one, and what they make of the documents
that reach them: each document is projected, the documents are put in order, fields that were only
sorted by are dropped, and a page is cut out.
-/

namespace RelPipe

set_option autoImplicit false

open Pipeline

def pageCount : Option UInt64 → Option Nat
  | none => none
  | some n => if n = 0 then none else some (min n.toNat 0x7fffffffffffffff)

def Statement.page (s : Statement) (documents : List Document) : List Document :=
  let rest := (pageCount s.skip).elim documents documents.drop
  (pageCount s.limit).elim rest rest.take

namespace Stage

def paging (kind : StageKind) : Option UInt64 → List Stage
  | none => []
  | some n => if n = 0 then [] else [⟨kind, pagingValue n⟩]

def sorting : Document → List Stage
  | [] => []
  | order => [⟨.sort, .document order⟩]

end Stage

namespace Projection

def sortField? (p : Projection) (g : Grouping) (index : Nat) (e : Expression) : Option String :=
  match p.sortTarget g e with
  | .field name => some name
  | .helper _ => some ("_sort" ++ Text.Numeral.ofNat index)
  | .nothing => none

def sortEntries (p : Projection) (g : Grouping) (index : Nat) : List SortKey → List (String × Value)
  | [] => []
  | key :: rest =>
    ((p.sortField? g index key.expression).map fun name => (name, direction key.direction)).toList ++
      sortEntries p g (index + 1) rest

end Projection

/-- The fields that a statement sorts by. A field that several keys sort by keeps the place of the
first and takes the direction of the last. -/
def Statement.order (s : Statement) (g : Grouping) : Document :=
  Fields.insertAll [] (s.outline.sortEntries g 0 s.sorts)

def Statement.keeping (s : Statement) (g : Grouping) : List Stage :=
  if (s.helpers g).isEmpty then [] else [⟨.project, .document s.outline.final⟩]

/-! The plan of a projection -/

theorem Statement.names_outputs (s : Statement) :
    s.outputs.map Prod.fst = OutputColumn.fieldNames s.operands := by
  have hLength : (OutputColumn.fieldNames s.operands).length = s.operands.length :=
    OutputColumn.length_fieldNamesFrom 0 .empty s.operands
  rw [outputs, Projection.outputs, List.map_map]
  exact List.map_snd_zip (Nat.le_of_eq hLength)

theorem Plan.add_sort (p : Plan) (order : Document) :
    p.add .sort (.document order) = ⟨p.collection, p.stages ++ Stage.sorting order⟩ := by
  cases order with
  | nil => rw [Stage.sorting, List.append_nil, add]
  | cons => rfl

theorem Plan.addPaging_eq (p : Plan) (kind : StageKind) (n? : Option UInt64) :
    p.addPaging kind n? = ⟨p.collection, p.stages ++ Stage.paging kind n?⟩ := by
  cases n? with
  | none => rw [Stage.paging, List.append_nil, addPaging]
  | some n =>
    rw [addPaging, Stage.paging]
    split
    · rw [List.append_nil]
    · rfl

theorem Projection.hasHelpers_addSorts {p : Projection} {site : Site} {s t : Sorting} {index : Nat}
    {keys : List SortKey} (h : p.addSorts site s index keys = .ok t) :
    t.hasHelpers = (s.hasHelpers || !(p.helpers site.grouping index keys).isEmpty) := by
  induction keys generalizing s index with
  | nil =>
    cases h
    rw [helpers, List.isEmpty_nil, Bool.not_true, Bool.or_false]
  | cons key keys ih =>
    rw [addSorts] at h
    rw [helpers]
    cases hTarget : p.sortTarget site.grouping key.expression with
    | field name | nothing =>
      rw [hTarget] at h
      rw [ih h]
    | helper caseless =>
      rw [hTarget] at h
      obtain ⟨v, _, h⟩ := exists_of_bind_eq_ok h
      rw [ih h, List.isEmpty_cons, Bool.true_or, Bool.not_false, Bool.or_true]

theorem Projection.order_addSorts {p : Projection} {site : Site} {s t : Sorting} {index : Nat}
    {keys : List SortKey} (h : p.addSorts site s index keys = .ok t) :
    t.order = Fields.insertAll s.order (p.sortEntries site.grouping index keys) := by
  induction keys generalizing s index with
  | nil =>
    cases h
    rfl
  | cons key keys ih =>
    rw [addSorts] at h
    rw [sortEntries, sortField?]
    cases hTarget : p.sortTarget site.grouping key.expression with
    | field name | nothing =>
      rw [hTarget] at h
      rw [ih h]
      rfl
    | helper caseless =>
      rw [hTarget] at h
      obtain ⟨v, _, h⟩ := exists_of_bind_eq_ok h
      rw [ih h]
      rfl

theorem Projection.sortEntries_congr {p q : Projection} (hFields : q.fields = p.fields)
    (hNames : q.names = p.names) (g : Grouping) (index : Nat) (keys : List SortKey) :
    q.sortEntries g index keys = p.sortEntries g index keys := by
  induction keys generalizing index with
  | nil => rfl
  | cons key keys ih =>
    rw [sortEntries, sortEntries, sortField?, sortField?, sortTarget_congr hFields hNames, ih]

theorem Projection.final_ne_nil (p : Projection) : p.final ≠ [] :=
  Fields.insertAll_ne_nil (List.cons_ne_nil _ _) _

theorem Planning.exists_stages_of_project {p q : Planning} {site : Site} {s : Statement}
    (h : p.project site s (OutputColumn.fieldNames s.operands) = .ok q) :
    ∃ specs helperSpecs,
      List.Forall₂ (Projection.Writes site) s.outputs specs ∧
      List.Forall₂ (Projection.WritesHelper site) (s.helpers site.grouping) helperSpecs ∧
      q.plan = ⟨p.plan.collection, p.plan.stages ++ (projectStage (specs ++ helperSpecs) ::
        (Stage.sorting (s.order site.grouping) ++ s.keeping site.grouping ++
          (Stage.paging .skip s.skip ++ Stage.paging .limit s.limit)))⟩ := by
  obtain ⟨projection, hProjection, h⟩ := exists_of_bind_eq_ok h
  obtain ⟨sorting, hSorting, h⟩ := exists_of_bind_eq_ok h
  obtain ⟨specs, hSpecs, hStage, hFields, hNames⟩ := Projection.exists_of_addAll hProjection
  obtain ⟨helperSpecs, hHelpers, hBody, _⟩ := Projection.exists_of_addSorts hSorting
  have hOutline : projection.helpers site.grouping 0 s.sorts = s.helpers site.grouping :=
    Projection.helpers_congr hFields hNames _ _ _
  have hWritten : sorting.stage = Fields.insertAll [("_id", .int32 0)] (specs ++ helperSpecs) := by
    rw [hBody, hStage]
    exact (List.foldl_append ..).symm
  have hNonempty : sorting.stage ≠ [] := hWritten ▸ Fields.insertAll_ne_nil (List.cons_ne_nil _ _) _
  have hOrder : sorting.order = s.order site.grouping := by
    have hEntries : projection.sortEntries site.grouping 0 s.sorts =
        s.outline.sortEntries site.grouping 0 s.sorts :=
      Projection.sortEntries_congr hFields hNames _ _ _
    rw [Projection.order_addSorts hSorting, hEntries]
    rfl
  have hSorted : ((p.add .project sorting.stage).add .sort sorting.order).plan =
      ⟨p.plan.collection, p.plan.stages ++ (projectStage (specs ++ helperSpecs) ::
        Stage.sorting sorting.order)⟩ := by
    change (p.plan.add .project (.document sorting.stage)).add .sort _ = _
    rw [Plan.add_eq _ _ hNonempty, Plan.add_sort, hWritten, List.append_assoc]
    rfl
  -- The last projection is there exactly if some key needed a field of its own.
  have hKept : (if sorting.hasHelpers then
      ((p.add .project sorting.stage).add .sort sorting.order).add .project projection.final
      else (p.add .project sorting.stage).add .sort sorting.order).plan =
      ⟨p.plan.collection, p.plan.stages ++ (projectStage (specs ++ helperSpecs) ::
        (Stage.sorting sorting.order ++ s.keeping site.grouping))⟩ := by
    rw [Projection.hasHelpers_addSorts hSorting, hOutline, Bool.false_or, Statement.keeping]
    cases (s.helpers site.grouping).isEmpty with
    | true => simpa using hSorted
    | false =>
      have hFinal : projection.final = s.outline.final := by
        rw [Projection.final, hNames]
        rfl
      change ((p.add .project sorting.stage).add .sort sorting.order).plan.add .project _ = _
      rw [Plan.add_eq _ _ projection.final_ne_nil, hSorted, hFinal, List.append_assoc]
      rfl
  cases h
  refine ⟨specs, helperSpecs, hSpecs, hOutline ▸ hHelpers, ?_⟩
  dsimp only
  rw [Plan.addPaging_eq, Plan.addPaging_eq, hKept, hOrder]
  simp only [List.append_assoc, List.cons_append]

/-! What the stages do -/

def Stage.values (stages : List Stage) : List Value := (stages.map toDocument).map .document

theorem index?_pagingValue (n : UInt64) :
    (pagingValue n).index? = some (min n.toNat 0x7fffffffffffffff) := by
  have hCapped : (Int64.ofInt (min (n.toNat : Int) 0x7fffffffffffffff)).toInt =
      min (n.toNat : Int) 0x7fffffffffffffff := Int64.toInt_ofInt_of_le (by omega) (by omega)
  change (if (Int64.ofInt (min (n.toNat : Int) 0x7fffffffffffffff)).toInt < 0 then none else
    some (Int64.ofInt (min (n.toNat : Int) 0x7fffffffffffffff)).toInt.toNat) = _
  rw [hCapped, if_neg (by omega)]
  exact congrArg some (by omega)

namespace Pipeline

theorem project_eq_projectFields (vars : Variables) (specs : List (String × Value)) (d : Document) :
    project vars (Fields.insertAll [("_id", .int32 0)] specs) d =
      projectFields ⟨d, vars⟩ (Fields.insertAll [("_id", .int32 0)] specs) := by
  have hIdentity : Fields.contains (Fields.insertAll [("_id", .int32 0)] specs) "_id" = true := by
    rw [Fields.contains, Fields.get?_insertAll, Option.isSome_or]
    exact Bool.or_true _
  rw [project, hIdentity]
  cases projectFields ⟨d, vars⟩ (Fields.insertAll [("_id", .int32 0)] specs) <;> rfl

theorem get?_of_project_last {vars : Variables} {specs : List (String × Value)} {d out : Document}
    (h : project vars (Fields.insertAll [("_id", .int32 0)] specs) d = .ok out) :
    Fields.Distinct out ∧ ∀ name,
      (Fields.get? specs.reverse name).elim (.ok none) (projected ⟨d, vars⟩ name) =
        .ok (Fields.get? out name) := by
  have hStart : Fields.Distinct [("_id", Value.int32 0)] := by decide
  rw [project_eq_projectFields] at h
  refine ⟨(hStart.insertAll specs).sublist (names_projectFields h), fun name => ?_⟩
  have hRead := get?_projectFields (hStart.insertAll specs) h name
  have hGet : Fields.get? (Fields.insertAll [("_id", .int32 0)] specs) name =
      (Fields.get? specs.reverse name).or (Fields.get? [("_id", .int32 0)] name) :=
    Fields.get?_insertAll _ specs name
  rw [hGet] at hRead
  cases hFound : Fields.get? specs.reverse name with
  | some spec =>
    rw [hFound, Option.some_or] at hRead
    exact hRead
  | none =>
    rw [hFound, Option.none_or, Fields.get?_cons] at hRead
    split at hRead
    · exact hRead
    · exact hRead

theorem get?_of_project {vars : Variables} {specs : List (String × Value)} {d out : Document}
    (hDistinct : Fields.Distinct specs)
    (h : project vars (Fields.insertAll [("_id", .int32 0)] specs) d = .ok out) :
    Fields.Distinct out ∧ ∀ name,
      (Fields.get? specs name).elim (.ok none) (projected ⟨d, vars⟩ name) =
        .ok (Fields.get? out name) := by
  obtain ⟨hOut, hRead⟩ := get?_of_project_last h
  refine ⟨hOut, fun name => ?_⟩
  rw [← hDistinct.get?_reverse]
  exact hRead name

variable (catalog : Catalog) (vars : Variables)

theorem runStages_values_append (stages others : List Stage) (documents : List Document) :
    runStages catalog vars (Stage.values (stages ++ others)) documents =
      runStages catalog vars (Stage.values stages) documents >>=
        runStages catalog vars (Stage.values others) := by
  rw [Stage.values, List.map_append, List.map_append, runStages_append]
  rfl

theorem runPlan_append (collection : String) (stages others : List Stage) :
    catalog.runPlan ⟨collection, stages ++ others⟩ =
      catalog.runPlan ⟨collection, stages⟩ >>= runStages catalog [] (Stage.values others) :=
  runStages_values_append catalog [] stages others _

theorem runStages_one (stage : Stage) (documents : List Document) :
    runStages catalog vars (Stage.values [stage]) documents =
      runStage catalog vars (.document stage.toDocument) documents := by
  change runStages catalog vars [.document stage.toDocument] documents = _
  rw [runStages_cons]
  cases runStage catalog vars (.document stage.toDocument) documents <;> rfl

theorem runStages_sorting (order : Document) (documents : List Document) :
    runStages catalog vars (Stage.values (Stage.sorting order)) documents =
      .ok (sortStage order documents) := by
  cases order with
  | nil =>
    rw [sortStage_nil]
    rfl
  | cons field fields =>
    rw [Stage.sorting, runStages_one]
    · exact runStage_sort catalog vars (field :: fields) documents
    · nofun

theorem runStages_paging (kind : StageKind) {documents : List Document} {cut : Nat → List Document}
    (h : ∀ {body : Value} {n : Nat}, body.index? = some n →
      runStage catalog vars (.document [(kind.operator, body)]) documents = .ok (cut n))
    (n? : Option UInt64) :
    runStages catalog vars (Stage.values (Stage.paging kind n?)) documents =
      .ok ((pageCount n?).elim documents cut) := by
  cases n? with
  | none => rfl
  | some n =>
    rw [Stage.paging, pageCount]
    split
    · rfl
    · rw [runStages_one]
      exact h (index?_pagingValue n)

theorem runStages_page (s : Statement) (documents : List Document) :
    runStages catalog vars (Stage.values (Stage.paging .skip s.skip ++ Stage.paging .limit s.limit))
      documents = .ok (s.page documents) := by
  have hSkip : runStages catalog vars (Stage.values (Stage.paging .skip s.skip)) documents =
      .ok ((pageCount s.skip).elim documents documents.drop) :=
    runStages_paging catalog vars .skip (fun h => runStage_skip catalog vars h documents) s.skip
  rw [runStages_values_append, hSkip]
  exact runStages_paging catalog vars .limit (fun h => runStage_limit catalog vars h _) s.limit

theorem runStages_keeping (s : Statement) (g : Grouping) (documents : List Document) :
    runStages catalog vars (Stage.values (s.keeping g)) documents =
      if (s.helpers g).isEmpty then .ok documents
      else eachDocument (project vars s.outline.final) documents := by
  rw [Statement.keeping]
  split
  · rfl
  · rw [runStages_one]
    exact runStage_project catalog vars s.outline.final documents

end Pipeline

/-- The documents between the stages of a projection. Those that reach it are projected, put in
order, and kept with the fields of the operands. -/
structure Statement.Shaping (s : Statement) (site : Site) (working : List Document) where
  specs : List (String × Value)
  helperSpecs : List (String × Value)
  rows : List Document
  sorted : List Document
  kept : List Document
  writes : List.Forall₂ (Projection.Writes site) s.outputs specs
  writesHelpers :
    List.Forall₂ (Projection.WritesHelper site) (s.helpers site.grouping) helperSpecs
  projects : List.Forall₂ (fun d row =>
    Pipeline.project [] (Fields.insertAll [("_id", .int32 0)] (specs ++ helperSpecs)) d = .ok row)
    working rows
  sorts : sorted = sortStage (s.order site.grouping) rows
  keeps : if s.helpers site.grouping = [] then kept = sorted
    else List.Forall₂ (fun row d => Pipeline.project [] s.outline.final row = .ok d) sorted kept

theorem Statement.Shaping.orders {s : Statement} {site : Site} {working : List Document}
    (shaping : s.Shaping site working) : shaping.rows.Perm shaping.sorted := by
  rw [shaping.sorts]
  exact (perm_sortBy _ _).symm

theorem Statement.Shaping.unsorted {s : Statement} {site : Site} {working : List Document}
    (shaping : s.Shaping site working) (h : s.sorts = []) : shaping.sorted = shaping.rows := by
  rw [shaping.sorts, order, h]
  exact sortStage_nil _

theorem Statement.Shaping.forall₂_sorted {s : Statement} {site : Site} {working : List Document}
    (shaping : s.Shaping site working) (h : s.helpers site.grouping = []) :
    List.Forall₂ (fun d row =>
      Pipeline.project [] (Fields.insertAll [("_id", .int32 0)] shaping.specs) d = .ok row)
      working shaping.rows ∧ shaping.rows.Perm shaping.kept ∧
      (s.sorts = [] → shaping.kept = shaping.rows) := by
  have hOrders := shaping.orders
  have hUnsorted := shaping.unsorted
  obtain ⟨specs, helperSpecs, rows, sorted, kept, _, hHelpers, hProjects, _, hKeeps⟩ := shaping
  rw [h] at hHelpers
  cases hHelpers
  rw [List.append_nil] at hProjects
  rw [if_pos h] at hKeeps
  subst hKeeps
  exact ⟨hProjects, hOrders, hUnsorted⟩

theorem Planning.exists_shaping {p q : Planning} {site : Site} {s : Statement}
    (h : p.project site s (OutputColumn.fieldNames s.operands) = .ok q) {catalog : Catalog}
    {documents : List Document} (hRun : catalog.runPlan q.plan = .ok documents) :
    ∃ working, catalog.runPlan p.plan = .ok working ∧
      ∃ shaping : s.Shaping site working, documents = s.page shaping.kept := by
  obtain ⟨specs, helperSpecs, hSpecs, hHelpers, hPlan⟩ := Planning.exists_stages_of_project h
  rw [hPlan, runPlan_append] at hRun
  obtain ⟨working, hWorking, hRun⟩ := exists_of_bind_eq_ok hRun
  rw [← List.singleton_append, runStages_values_append, runStages_one] at hRun
  obtain ⟨rows, hRows, hRun⟩ := exists_of_bind_eq_ok hRun
  rw [List.append_assoc, runStages_values_append, runStages_sorting] at hRun
  obtain ⟨sorted, hSorted, hRun⟩ := exists_of_bind_eq_ok hRun
  rw [runStages_values_append, runStages_keeping] at hRun
  obtain ⟨kept, hKept, hRun⟩ := exists_of_bind_eq_ok hRun
  rw [runStages_page] at hRun
  have hKeeps : if s.helpers site.grouping = [] then kept = sorted
      else List.Forall₂ (fun row d => Pipeline.project [] s.outline.final row = .ok d)
        sorted kept := by
    split
    · rename_i hNone
      rw [hNone] at hKept
      exact (Except.ok.inj hKept).symm
    · rename_i hSome
      rw [if_neg (mt List.isEmpty_iff.mp hSome)] at hKept
      exact eachDocument_eq_ok_iff.mp hKept
  have hProjects := (runStage_project catalog [] _ _).symm.trans hRows
  exact ⟨working, hWorking, ⟨specs, helperSpecs, rows, sorted, kept, hSpecs, hHelpers,
    eachDocument_eq_ok_iff.mp hProjects, (Except.ok.inj hSorted).symm, hKeeps⟩,
    (Except.ok.inj hRun).symm⟩

/-- A run of a statement: its source, and the shaping of the documents that come from it. -/
theorem Statement.exists_shaping_of_run {s : Statement} {caseSensitive : Bool} {plan : Plan}
    {ctx : Context} (h : s.compile caseSensitive = .ok (plan, ctx)) {catalog : Catalog}
    {documents : List Document} (hRun : catalog.runPlan plan = .ok documents) :
    ∃ source working, s.planSource caseSensitive [] = .ok (source, .ofStatement s) ∧
      catalog.runPlan source.plan = .ok working ∧
      ∃ shaping : s.Shaping ⟨source.scope, .ofStatement s, caseSensitive⟩ working,
        documents = s.page shaping.kept := by
  obtain ⟨⟨source, g⟩, hSource, h⟩ := exists_of_bind_eq_ok h
  obtain ⟨q, hProject, h⟩ := exists_of_bind_eq_ok h
  cases h
  obtain ⟨_, planned, _, _, hNarrow⟩ := s.exists_steps hSource
  obtain rfl : g = .ofStatement s := (Planning.exists_narrowed hNarrow).1
  obtain ⟨working, hWorking, shaping, hDocuments⟩ := Planning.exists_shaping hProject hRun
  exact ⟨source, working, hSource, hWorking, shaping, hDocuments⟩

end RelPipe
