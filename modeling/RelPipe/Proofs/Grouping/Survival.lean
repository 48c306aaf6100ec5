import RelPipe.Proofs.Planning.StageReads
import RelPipe.Proofs.Planning.Steps

/-!
What becomes of subquery results when documents are grouped. Subqueries are attached before the
groups are formed, and a group holds its keys and aggregates only. A later stage finds a subquery's
field gone exactly if the group condition, an operand or a sort key is computed from a subquery that
is not part of a key.
-/

namespace RelPipe

set_option autoImplicit false

def Stage.produces (stage : Stage) : List String :=
  match stage.body with
  | .document body =>
    match stage.kind with
    | .project => (body.filter fun field => Pipeline.flag? field.2 ≠ some false).map Prod.fst
    | .group | .addFields => body.map Prod.fst
    | .lookup =>
      match Fields.get? body "as" with
      | some (.string field) => [field]
      | _ => []
    | .unwind => (Pipeline.unwindField? body).toList
    | .filter | .sort | .skip | .limit => []
  | _ => []

/-- A reference leads to a field or to something below it. -/
def LeadsInto (field r : String) : Prop :=
  r = "$" ++ field ∨ ∃ path, r = "$" ++ field ++ "." ++ path

def subqueryField (index : Nat) : String := "SubAgg" ++ Text.Numeral.ofNat index

/-- Every subquery field that a stage reads has been produced by one of the given stages. -/
def Stage.Finds (sources : List Stage) (stage : Stage) : Prop :=
  ∀ index, ∀ r ∈ stage.reads, LeadsInto (subqueryField index) r →
    ∃ source ∈ sources, subqueryField index ∈ source.produces

/-- Each stage finds what it reads among the stages before it. -/
def Stage.AllFind : List Stage → List Stage → Prop
  | _, [] => True
  | sources, stage :: rest => stage.Finds sources ∧ AllFind (sources ++ [stage]) rest

/-- After the stage that groups documents, every subquery field that is read has been produced by
that stage or by one since. -/
def Plan.KeepsSubqueries (plan : Plan) : Prop :=
  ∀ before grouping after, plan.stages = before ++ grouping :: after → grouping.kind = .group →
    Stage.AllFind [grouping] after

/-- What a statement computes from its groups: the group condition, and whatever is written last
under the name of a projected field. -/
def Statement.ComputesFromGroups (s : Statement) (e : Expression) : Prop :=
  s.having = some e ∨
    ∃ name, (s.outputs ++ s.helpers (.ofStatement s)).reverse.lookup name = some e

/-! Names -/

theorem LeadsInto.second {index : Nat} {r : String} (h : LeadsInto (subqueryField index) r) :
    r.toList[1]? = some 'S' := by
  obtain rfl | ⟨path, rfl⟩ := h <;> simp [subqueryField]

def LeadsToSubquery (r : String) : Prop := ∃ index, LeadsInto (subqueryField index) r

theorem ungrouped_leadsToSubquery : Ungrouped LeadsToSubquery := by
  rintro r ⟨index, hLeads⟩
  rw [hLeads.second]
  decide

theorem Grouping.Provides.not_leadsInto {g : Grouping} {r : String} (h : g.Provides r)
    (index : Nat) : ¬ LeadsInto (subqueryField index) r := by
  intro hLeads
  have hSecond := hLeads.second
  cases h <;> simp at hSecond

theorem subqueryField_ne {index : Nat} {name : String} {c : Char}
    (h : name.toList.head? = some c) (hc : c ≠ 'S') : name ≠ subqueryField index := by
  rintro rfl
  simp [subqueryField] at h
  exact hc h.symm

theorem eq_of_leadsInto {field name : String} (hName : '.' ∉ name.toList)
    (h : LeadsInto field ("$" ++ name)) : name = field := by
  obtain h | ⟨path, h⟩ := h
  · exact (String.append_right_inj _).mp h
  · have hDot : '.' ∈ ("$" ++ name).toList := by
      rw [h]
      simp
    rw [String.toList_append, List.mem_append] at hDot
    obtain hDot | hDot := hDot
    · exact absurd hDot (by decide)
    · exact absurd hDot hName

/-! The stage that groups -/

theorem Grouping.not_mem_names_stageDocument {site : Site} {s : Statement} {body : Document}
    (h : (ofStatement s).stageDocument site = .ok body) (index : Nat) :
    subqueryField index ∉ body.map Prod.fst := by
  obtain ⟨keys, accumulators, _, hAccumulators, rfl⟩ := exists_of_stageDocument h
  rw [List.map_cons, names_eq_of_forall₂ (fun _ _ h => h.1) hAccumulators, List.mem_cons, not_or]
  have hId : "_id" ≠ subqueryField index := subqueryField_ne (c := '_') (by decide) (by decide)
  refine ⟨hId.symm, fun hName => ?_⟩
  obtain ⟨a, ha, hName⟩ := List.mem_map.mp hName
  obtain ⟨number, _, hNumber⟩ := numbered_ofStatement s a ha
  refine subqueryField_ne (c := 'A') ?_ (by decide) (hNumber.symm.trans hName)
  simp

theorem mem_produces_projectStage {Q : String → Prop} {site : Site}
    {fields : List (String × Expression)} {specs : List (String × Value)}
    (h : List.Forall₂ (Reflects Q site) fields specs) {name : String}
    (hName : name ∈ specs.map Prod.fst) : name ∈ (projectStage specs).produces := by
  have hLookup := exists_lookup_of_forall₂ (fun _ _ h => h.name) (List.rel_reverse h) name
  obtain ⟨_, hNone⟩ | ⟨e, v, _, hSpec, hReflects⟩ := hLookup
  · obtain ⟨⟨key, v⟩, hMem, rfl⟩ := List.mem_map.mp hName
    have hKey := List.lookup_eq_none_iff.mp hNone (key, v) (List.mem_reverse.mpr hMem)
    simp at hKey
  · refine List.mem_map.mpr ⟨(name, v), List.mem_filter.mpr ⟨mem_projectStage.mpr (.inl hSpec), ?_⟩,
      rfl⟩
    rw [hReflects.computed]
    rfl

/-! The stages of a plan with groups -/

/-- Before the condition of a statement, no stage groups documents. -/
def Planning.Ungrouped (p : Planning) : Prop := ∀ stage ∈ p.plan.stages, stage.kind ≠ .group

theorem Planning.Ungrouped.attachesAll {caseSensitive : Bool} {wanted : Aggregate → Prop}
    {p q : Planning} (h : p.Ungrouped) (hSteps : AttachesAll caseSensitive wanted p q) :
    q.Ungrouped := by
  induction hSteps with
  | refl => exact h
  | tail _ hStep ih =>
    obtain ⟨a, _, hAttaches⟩ := hStep
    cases hAttaches
    intro stage hStage
    rw [Planning.stages_attachSubquery, List.mem_append] at hStage
    obtain hStage | hStage := hStage
    · exact ih stage hStage
    · obtain rfl | rfl | rfl : stage = _ ∨ stage = _ ∨ stage = _ := by simpa using hStage
      all_goals simp

theorem Planning.Ungrouped.plansAll {caseSensitive : Bool} {ns : List JoinNode} {p q : Planning}
    (h : p.Ungrouped) (hSteps : JoinNode.PlansAll caseSensitive ns p q) : q.Ungrouped := by
  induction hSteps with
  | refl => exact h
  | tail _ hStep ih =>
    obtain ⟨node, _, hOne⟩ := hStep
    obtain ⟨inner, joined, _, rfl⟩ := JoinNode.exists_of_planOne hOne
    intro stage hStage
    rw [Planning.stages_attachJoin, List.mem_append] at hStage
    obtain hStage | hStage := hStage
    · exact ih stage hStage
    · obtain rfl | rfl : stage = _ ∨ stage = _ := by simpa using hStage
      all_goals simp

/-- The stages of a plan with groups: those before the groups are formed, the stage that forms them,
the group condition, the projection and what arranges its documents. -/
structure GroupedStages (caseSensitive : Bool) (s : Statement) (ctx : Context) (before : List Stage)
    (body : Document) (conditions : List Stage) (specs : List (String × Value))
    (tail : List Stage) : Prop where
  ungrouped : ∀ stage ∈ before, stage.kind ≠ .group
  grouping : ∃ site, (Grouping.ofStatement s).stageDocument site = .ok body
  having : s.having = none ∧ conditions = [] ∨ ∃ e condition, s.having = some e ∧
    Site.filterDocument ⟨ctx.scope, ctx.grouping, caseSensitive⟩ e = .ok condition ∧
    conditions = [⟨.filter, .document condition⟩]
  written : List.Forall₂ (Reflects LeadsToSubquery ⟨ctx.scope, ctx.grouping, caseSensitive⟩)
    (s.outputs ++ s.helpers (.ofStatement s)) specs
  arranged : ∀ stage ∈ tail, Projection.Arranges (specs.map Prod.fst) stage

/-- The stage that forms the groups stands between the stages up to the condition of a statement and
the condition on its groups. -/
theorem Statement.exists_groupStage {caseSensitive : Bool} {s : Statement}
    (hGroups : (Grouping.ofStatement s).isEmpty = false) {source : Planning} {g : Grouping}
    (h : s.planSource caseSensitive [] = .ok (source, g)) :
    ∃ before body conditions,
      source.plan.stages = before ++ ⟨.group, .document body⟩ :: conditions ∧
      (∀ stage ∈ before, stage.kind ≠ .group) ∧
      (Grouping.ofStatement s).stageDocument ⟨source.scope, .empty, caseSensitive⟩ = .ok body ∧
      (s.having = none ∧ conditions = [] ∨ ∃ e condition, s.having = some e ∧
        Site.filterDocument ⟨source.scope, .ofStatement s, caseSensitive⟩ e = .ok condition ∧
        conditions = [⟨.filter, .document condition⟩]) := by
  obtain ⟨joined, planned, hJoins, hSubqueries, hNarrow⟩ := s.exists_steps h
  obtain ⟨rfl, filtered, grouped, hFiltered, hGrouped, hKept⟩ := Planning.exists_narrowed hNarrow
  obtain ⟨hNone, _⟩ | ⟨_, body, hBody, rfl⟩ := hGrouped
  · exact absurd hNone (Bool.eq_false_iff.mp hGroups)
  have hGroupStage : (filtered.add .group body).plan.stages =
      filtered.plan.stages ++ [⟨.group, .document body⟩] :=
    Plan.stages_add _ _ (Grouping.stageDocument_ne_nil hBody)
  obtain ⟨hFilteredScope, hCondition⟩ := Planning.stages_filter hFiltered
  obtain ⟨hKeptScope, hHaving⟩ := Planning.stages_filter hKept
  have hUngrouped : ∀ stage ∈ filtered.plan.stages, stage.kind ≠ .group := by
    have hStart : (Planning.start s.table (s.aliasName.getD "") []).Ungrouped :=
      List.forall_mem_nil _
    have hPlanned := (hStart.plansAll hJoins).attachesAll hSubqueries
    obtain ⟨_, hSame⟩ | ⟨_, condition, _, _, hMore⟩ := hCondition
    · rw [hSame]
      exact hPlanned
    · rw [hMore, List.forall_mem_append, List.forall_mem_singleton]
      exact ⟨hPlanned, by simp⟩
  rw [hKeptScope.trans hFilteredScope]
  obtain ⟨hNone, hSame⟩ | ⟨e, condition, hSome, hClause, hMore⟩ := hHaving
  · exact ⟨filtered.plan.stages, body, [], by rw [hSame, hGroupStage], hUngrouped, hBody,
      .inl ⟨hNone, rfl⟩⟩
  · refine ⟨filtered.plan.stages, body, [⟨.filter, .document condition⟩], ?_, hUngrouped, hBody,
      .inr ⟨e, condition, hSome, hClause, rfl⟩⟩
    rw [hMore, hGroupStage, List.append_assoc, List.singleton_append]

theorem Statement.exists_groupedStages {caseSensitive : Bool} {s : Statement} {plan : Plan}
    {ctx : Context} (h : s.compile caseSensitive = .ok (plan, ctx))
    (hGroups : ctx.grouping.isEmpty = false) :
    ∃ before body conditions specs tail,
      plan.stages =
        before ++ ⟨.group, .document body⟩ :: (conditions ++ projectStage specs :: tail) ∧
      GroupedStages caseSensitive s ctx before body conditions specs tail := by
  obtain ⟨⟨p, g⟩, hPlanned, h⟩ := exists_of_bind_eq_ok h
  obtain ⟨q, hProjected, h⟩ := exists_of_bind_eq_ok h
  cases h
  obtain ⟨_, planned, _, _, hNarrow⟩ := s.exists_steps hPlanned
  obtain rfl : g = .ofStatement s := (Planning.exists_narrowed hNarrow).1
  obtain ⟨before, body, conditions, hSource, hUngrouped, hBody, hHaving⟩ :=
    exists_groupStage hGroups hPlanned
  obtain ⟨specs, helperSpecs, tail, hSpecs, hHelpers, hStages, hTail⟩ :=
    Planning.exists_of_project hProjected
  have hScope : q.scope = p.scope := (Planning.extends_project hProjected).1
  rw [← hScope] at hHaving hSpecs hHelpers
  have hWritten : List.Forall₂ (Reflects LeadsToSubquery ⟨q.scope, .ofStatement s, caseSensitive⟩)
      (s.outputs ++ s.helpers (.ofStatement s)) (specs ++ helperSpecs) := by
    refine List.rel_append (hSpecs.imp fun _ _ h => h.reflects) (hHelpers.imp fun _ _ h => ?_)
    exact h.reflects ungrouped_leadsToSubquery (Grouping.numbered_ofStatement s)
  refine ⟨before, body, conditions, specs ++ helperSpecs, tail, ?_, hUngrouped, ⟨_, hBody⟩,
    hHaving, hWritten, hTail⟩
  rw [hStages, hSource, List.append_assoc, List.cons_append]
  rfl

/-! What is found -/

theorem Stage.allFind_append {sources first second : List Stage} :
    AllFind sources (first ++ second) ↔
      AllFind sources first ∧ AllFind (sources ++ first) second := by
  induction first generalizing sources with
  | nil => simp [AllFind]
  | cons stage first ih =>
    rw [List.cons_append, AllFind, AllFind, ih, and_assoc, List.append_assoc]
    rfl

theorem Stage.Finds.mono {sources more : List Stage} {stage : Stage} (h : stage.Finds sources)
    (hMore : ∀ source ∈ sources, source ∈ more) : stage.Finds more := by
  intro index r hr hLeads
  obtain ⟨source, hSource, hProduces⟩ := h index r hr hLeads
  exact ⟨source, hMore source hSource, hProduces⟩

theorem Stage.allFind_of_forall {sources stages : List Stage}
    (h : ∀ stage ∈ stages, stage.Finds sources) : AllFind sources stages := by
  induction stages generalizing sources with
  | nil => trivial
  | cons stage stages ih =>
    obtain ⟨hFirst, hRest⟩ := List.forall_mem_cons.mp h
    exact ⟨hFirst, ih fun stage hStage => (hRest stage hStage).mono fun source hSource =>
      List.mem_append_left _ hSource⟩

theorem Stage.finds_iff_of_none {sources : List Stage} {stage : Stage}
    (h : ∀ index, ∀ source ∈ sources, subqueryField index ∉ source.produces) :
    stage.Finds sources ↔ ∀ index, ∀ r ∈ stage.reads, ¬ LeadsInto (subqueryField index) r := by
  constructor
  · intro hFinds index r hr hLeads
    obtain ⟨source, hSource, hProduces⟩ := hFinds index r hr hLeads
    exact h index source hSource hProduces
  · exact fun hNone index r hr hLeads => absurd hLeads (hNone index r hr)

theorem Projection.Arranges.finds {names : List String} {stage : Stage} (h : Arranges names stage)
    (hDots : ∀ name ∈ names, '.' ∉ name.toList) {sources : List Stage}
    (hNames : ∃ source ∈ sources, ∀ name ∈ names, name ∈ source.produces) :
    stage.Finds sources := by
  obtain ⟨source, hSource, hProduces⟩ := hNames
  have hName : ∀ name ∈ names, ∀ index, LeadsInto (subqueryField index) ("$" ++ name) →
      ∃ source ∈ sources, subqueryField index ∈ source.produces := by
    intro name hName index hLeads
    obtain rfl := eq_of_leadsInto (hDots name hName) hLeads
    exact ⟨source, hSource, hProduces _ hName⟩
  intro index r hr hLeads
  obtain ⟨name, hMem, rfl⟩ := h.exists_of_mem_reads hr
  exact hName name hMem index hLeads

/-- A list is cut in one way only at the one element that has a property. -/
theorem unique_of_split {α : Type} {P : α → Prop} {before before' after after' : List α}
    {x y : α} (hBefore : ∀ a ∈ before, ¬ P a) (hAfter : ∀ a ∈ after, ¬ P a) (hy : P y)
    (h : before ++ x :: after = before' ++ y :: after') : x = y ∧ after = after' := by
  induction before generalizing before' with
  | nil =>
    cases before' with
    | nil => exact List.cons.inj h
    | cons a before' =>
      obtain ⟨_, hRest⟩ := List.cons.inj h
      exact absurd hy (hAfter y (by simp [hRest]))
  | cons a before ih =>
    obtain ⟨hFirst, hRest⟩ := List.forall_mem_cons.mp hBefore
    cases before' with
    | nil => exact absurd hy ((List.cons.inj h).1 ▸ hFirst)
    | cons b before' => exact ih hRest (List.cons.inj h).2

theorem Projection.Arranges.kind_ne {names : List String} {stage : Stage}
    (h : Arranges names stage) : stage.kind ≠ .group := by
  cases h <;> simp

section

variable {caseSensitive : Bool} {s : Statement} {ctx : Context}
  {before conditions tail : List Stage} {body : Document} {specs : List (String × Value)}

theorem GroupedStages.keeps_iff
    (h : GroupedStages caseSensitive s ctx before body conditions specs tail) {plan : Plan}
    (hStages : plan.stages =
      before ++ ⟨.group, .document body⟩ :: (conditions ++ projectStage specs :: tail)) :
    plan.KeepsSubqueries ↔
      Stage.AllFind [⟨.group, .document body⟩] (conditions ++ projectStage specs :: tail) := by
  constructor
  · exact fun hKeeps => hKeeps before _ _ hStages rfl
  · intro hFind before' grouping after hSplit hKind
    have hAfter : ∀ stage ∈ conditions ++ projectStage specs :: tail, ¬ stage.kind = .group := by
      intro stage hStage
      obtain hStage | hStage := List.mem_append.mp hStage
      · obtain ⟨_, rfl⟩ | ⟨e, condition, _, _, rfl⟩ := h.having
        · cases hStage
        · obtain rfl := List.mem_singleton.mp hStage
          simp
      · obtain rfl | hStage := List.mem_cons.mp hStage
        · simp [projectStage]
        · exact (h.arranged stage hStage).kind_ne
    obtain ⟨rfl, rfl⟩ := unique_of_split h.ungrouped hAfter hKind (hStages.symm.trans hSplit)
    exact hFind

theorem GroupedStages.not_produces
    (h : GroupedStages caseSensitive s ctx before body conditions specs tail) (index : Nat) :
    ∀ source ∈ [⟨.group, .document body⟩] ++ conditions, subqueryField index ∉ source.produces := by
  intro source hSource
  obtain hSource | hSource := List.mem_append.mp hSource
  · obtain rfl := List.mem_singleton.mp hSource
    obtain ⟨site, hBody⟩ := h.grouping
    exact Grouping.not_mem_names_stageDocument hBody index
  · obtain ⟨_, rfl⟩ | ⟨e, condition, _, _, rfl⟩ := h.having
    · cases hSource
    · obtain rfl := List.mem_singleton.mp hSource
      exact List.not_mem_nil

theorem GroupedStages.conditions_find_iff
    (h : GroupedStages caseSensitive s ctx before body conditions specs tail) :
    Stage.AllFind [⟨.group, .document body⟩] conditions ↔
      ∀ e, s.having = some e → ∀ index r, LeadsInto (subqueryField index) r →
        ¬ Site.Reads ⟨ctx.scope, ctx.grouping, caseSensitive⟩ e r := by
  have hProduces := fun index source hSource =>
    h.not_produces index source (List.mem_append_left _ hSource)
  obtain ⟨hNone, rfl⟩ | ⟨e, condition, hSome, hCondition, rfl⟩ := h.having
  · simp [Stage.AllFind, hNone]
  · have hReads : ∀ r, r ∈ (⟨.filter, .document condition⟩ : Stage).reads ↔
        Site.Reads ⟨ctx.scope, ctx.grouping, caseSensitive⟩ e r :=
      fun r => Stage.mem_reads_filter hCondition
    rw [Stage.AllFind, Stage.AllFind, and_true, Stage.finds_iff_of_none hProduces]
    constructor
    · intro hFinds e' he' index r hLeads hRead
      obtain rfl := Option.some.inj (hSome.symm.trans he')
      exact hFinds index r ((hReads r).mpr hRead) hLeads
    · exact fun hNone index r hr hLeads => hNone e hSome index r hLeads ((hReads r).mp hr)

theorem GroupedStages.tail_find
    (h : GroupedStages caseSensitive s ctx before body conditions specs tail)
    {sources : List Stage} (hSource : projectStage specs ∈ sources) :
    Stage.AllFind sources tail := by
  refine Stage.allFind_of_forall fun stage hStage => ?_
  refine (h.arranged stage hStage).finds ?_ ⟨_, hSource, fun name hName =>
    mem_produces_projectStage h.written hName⟩
  intro name hName
  rw [names_eq_of_forall₂ (fun _ _ h => h.name) h.written] at hName
  exact Statement.not_mem_projected (.inl rfl) hName

end

/-- Subquery results survive grouping exactly if nothing that is computed from the groups reads one.
An expression that is a group key or an aggregate is read from the group; a subquery anywhere else
in the group condition, an operand or a sort key is read from a field that no group has. -/
theorem Statement.keepsSubqueries_iff {caseSensitive : Bool} {s : Statement} {plan : Plan}
    {ctx : Context} (h : s.compile caseSensitive = .ok (plan, ctx))
    (hGroups : ctx.grouping.isEmpty = false) :
    plan.KeepsSubqueries ↔
      ∀ e, s.ComputesFromGroups e → ∀ index r, LeadsInto (subqueryField index) r →
        ¬ Site.Reads ⟨ctx.scope, ctx.grouping, caseSensitive⟩ e r := by
  obtain ⟨before, body, conditions, specs, tail, hStages, hParts⟩ :=
    s.exists_groupedStages h hGroups
  rw [hParts.keeps_iff hStages, Stage.allFind_append, hParts.conditions_find_iff,
    Stage.AllFind, Stage.finds_iff_of_none hParts.not_produces]
  constructor
  · rintro ⟨hHaving, hProjection, _⟩ e (hSome | ⟨name, hName⟩) index r hLeads hRead
    · exact hHaving e hSome index r hLeads hRead
    · have hr := (mem_reads_projectStage hParts.written ⟨index, hLeads⟩).mpr ⟨name, e, hName, hRead⟩
      exact hProjection index r hr hLeads
  · intro hNone
    refine ⟨fun e he => hNone e (.inl he), fun index r hr hLeads => ?_, hParts.tail_find ?_⟩
    · obtain ⟨name, e, hName, hRead⟩ :=
        (mem_reads_projectStage hParts.written ⟨index, hLeads⟩).mp hr
      exact hNone e (.inr ⟨name, hName⟩) index r hLeads hRead
    · simp

namespace Statement

def itemCount : Aggregate :=
  ⟨.count, none, some { Statement.empty with table := "Items", aliasName := some "i" }⟩

def ordersByItemCount : Statement :=
  { Statement.empty with
    table := "Orders"
    aliasName := some "o"
    operands := [⟨.aggregate itemCount, some "Items"⟩,
      ⟨.aggregate ⟨.count, none, none⟩, some "Orders"⟩]
    groupBy := [.aggregate itemCount] }

theorem keepsSubqueries_ordersByItemCount :
    ∃ plan ctx, ordersByItemCount.compile false = .ok (plan, ctx) ∧
      ctx.grouping.isEmpty = false ∧ plan.KeepsSubqueries := by
  have hCompiled : ∃ plan ctx, ordersByItemCount.compile false = .ok (plan, ctx) ∧
      ctx.grouping = .ofStatement ordersByItemCount := ⟨_, _, rfl, rfl⟩
  obtain ⟨plan, ⟨_, scope, grouping, _, _⟩, hCompiled, rfl⟩ := hCompiled
  have hGroups : (Grouping.ofStatement ordersByItemCount).isEmpty = false := rfl
  refine ⟨plan, _, hCompiled, hGroups, (keepsSubqueries_iff hCompiled hGroups).mpr ?_⟩
  intro e he index r hLeads hRead
  -- Both operands are entries of the grouping.
  have hEntry : (Grouping.ofStatement ordersByItemCount).hasEntry e = true := by
    obtain hHaving | ⟨name, hName⟩ := he
    · cases hHaving
    · have hMem : (name, e) ∈ [("Items", .aggregate itemCount),
          ("Orders", Expression.aggregate ⟨.count, none, none⟩)] :=
        List.mem_reverse.mp (Fields.mem_of_get? hName)
      obtain hPair | hPair := List.mem_pair.mp hMem <;> cases hPair <;> rfl
  have hKeeps : Site.Keeps ⟨scope, .ofStatement ordersByItemCount, false⟩ e :=
    Site.keeps_of_hasEntry hEntry
  exact (hKeeps.provides (Grouping.numbered_ofStatement _) hRead).not_leadsInto index hLeads

def ordersByOwner : Statement :=
  { Statement.empty with
    table := "Orders"
    aliasName := some "o"
    operands := [⟨.column ⟨some "o", "Owner", .int32⟩, some "Owner"⟩,
      ⟨.aggregate itemCount, some "Items"⟩]
    groupBy := [.column ⟨some "o", "Owner", .int32⟩] }

theorem not_keepsSubqueries_ordersByOwner :
    ∃ plan ctx, ordersByOwner.compile false = .ok (plan, ctx) ∧
      ctx.grouping.isEmpty = false ∧ ¬ plan.KeepsSubqueries := by
  refine ⟨_, _, rfl, rfl, fun h => ?_⟩
  obtain ⟨hFinds, _⟩ := h [_, _, _] _ [_] rfl rfl
  obtain ⟨source, hSource, hProduces⟩ := hFinds 0 "$SubAgg0" (by decide +kernel) (.inl rfl)
  obtain rfl := List.mem_singleton.mp hSource
  revert hProduces
  decide +kernel

end Statement

end RelPipe
