import RelPipe.Proofs.Filter.NullLogic
import RelPipe.Proofs.Joins.NestedLoop
import RelPipe.Proofs.Pipeline.Running
import RelPipe.Proofs.Scoping.JoinConditions

/-!
Planned joins compute the nested-loop join. Each join is a lookup and an unwinding; the lookup's
pipeline reads its own collection directly and everything joined before through variables. One step
takes the documents of rows to the documents of the rows after the join, and the whole plan follows
the joins in preorder.
-/

namespace RelPipe

set_option autoImplicit false

open Pipeline

/-! Conditions -/

theorem Expression.planAll_of_forall {caseSensitive : Bool} {es : List Expression} {p : Planning}
    (h : ∀ e ∈ es, e.plan caseSensitive p = .ok p) :
    Expression.planAll caseSensitive es p = .ok p := by
  induction es with
  | nil => rfl
  | cons e es ih =>
    obtain ⟨hHead, hTail⟩ := List.forall_mem_cons.mp h
    rw [planAll, hHead]
    exact ih hTail

theorem Filter.ofComparison_fields (op : BinaryOp) (a b : String) :
    ofComparison op (.field a) (.field b) =
      .computed (RelPipe.comparison op (.field a) (.field b)) := by
  simp [ofComparison, ofComparison?, Operand.constant?]

theorem Filter.toDocument_ne_nil (f : Filter) : f.toDocument ≠ [] := by
  cases f with
  | comparison field op value => cases op <;> simp [toDocument]
  | _ => simp [toDocument]

namespace Expression.ComparesColumns

variable {known : ColumnRef → Prop} {e : Expression}

theorem mono {known' : ColumnRef → Prop} (h : e.ComparesColumns known)
    (hKnown : ∀ ref, known ref → known' ref) : e.ComparesColumns known' := by
  induction h with
  | comparison hop ha hb => exact .comparison hop (hKnown _ ha) (hKnown _ hb)
  | group _ ih => exact .group ih

theorem known_of_mem (h : e.ComparesColumns known) {ref : ColumnRef}
    (hRef : ref ∈ e.outerColumns []) : known ref := by
  induction h with
  | comparison _ ha hb =>
    rw [outerColumns, outerColumns, outerColumns, List.mem_append] at hRef
    obtain hRef | hRef := hRef
    · exact ColumnRef.eq_of_mem_outer hRef ▸ ha
    · exact ColumnRef.eq_of_mem_outer hRef ▸ hb
  | group _ ih =>
    obtain ⟨e, he, hRef⟩ := Expression.exists_of_mem_outerColumnsAll hRef
    exact ih e he hRef

/-- All columns that are compared have a qualifier, so all of them may come from outside. -/
theorem mem_outerColumns (h : e.ComparesColumns known)
    (hQualified : ∀ ref, known ref → ∃ qualifier, ref.qualifier = some qualifier) :
    e.ComparesColumns fun ref => ref ∈ e.outerColumns [] := by
  have hOne : ∀ {ref : ColumnRef}, known ref → ref ∈ (Expression.column ref).outerColumns [] := by
    intro ref hRef
    obtain ⟨qualifier, hQualifier⟩ := hQualified ref hRef
    exact ColumnRef.mem_outerColumns hQualifier
  induction h with
  | comparison hop ha hb =>
    exact .comparison hop (List.mem_append_left _ (hOne ha)) (List.mem_append_right _ (hOne hb))
  | group _ ih =>
    exact .group fun e he => (ih e he).mono fun _ hRef => subset_outerColumnsAll he hRef

theorem plan_eq (h : e.ComparesColumns known) (caseSensitive : Bool) (p : Planning) :
    e.plan caseSensitive p = .ok p := by
  induction h with
  | comparison => rfl
  | group _ ih =>
    rw [Expression.plan]
    exact planAll_of_forall ih

/-- The clause of such a condition decides it by what its columns are read from. -/
theorem exists_clauseOf (h : e.ComparesColumns known) (caseSensitive : Bool) (p : Planning)
    (env : Environment) :
    ∃ f, (p.site caseSensitive).clauseOf e = .ok f ∧
      f.Decides env (e.holdsOf fun ref => env.reference (p.scope.columnPath ref)) := by
  induction h with
  | @comparison op hop a b _ _ =>
    have hColumn : ∀ ref, (p.site caseSensitive).compile (.column ref) =
        .ok (.field (p.scope.columnPath ref)) := fun _ => rfl
    refine ⟨.ofComparison op (.field (p.scope.columnPath a)) (.field (p.scope.columnPath b)), ?_, ?_⟩
    · rw [Site.clauseOf_comparison hop (Grouping.operand?_empty _), hColumn, hColumn]
      rfl
    · rw [Filter.ofComparison_fields]
      exact (Filter.Exact.computed _).decides (truth_comparison_operands op hop rfl rfl)
  | group _ ih =>
    rw [holdsOf, holdsOfEach_eq_map]
    exact Site.exists_clauseOf_group (Grouping.operand?_empty _) ih

end Expression.ComparesColumns

/-- The pipeline of a join keeps the documents that its condition holds of, by what the columns of
the condition are read from. -/
theorem JoinNode.exists_joined {node : JoinNode} {known : ColumnRef → Prop}
    (h : ∀ e, node.condition = some e → e.ComparesColumns known) (caseSensitive : Bool)
    (p : Planning) :
    ∃ joined : Planning, node.planOne caseSensitive p =
        .ok (p.attachJoin node.table (node.fieldAt p) node.kind joined) ∧
      joined.scope = (node.startAt p).scope ∧
      ∀ (catalog : Catalog) (vars : Variables) (documents : List Document),
        runStages catalog vars (joined.plan.pipeline.map .document) documents =
          .ok (documents.filter fun x => node.condition.all (·.holdsOf fun ref =>
            Environment.reference ⟨x, vars⟩ ((node.startAt p).scope.columnPath ref))) := by
  cases hCondition : node.condition with
  | none =>
    refine ⟨node.startAt p, ?_, rfl, ?_⟩
    · rw [planOne, hCondition]
      rfl
    · intro catalog vars documents
      simp [startAt, Planning.start, Plan.on, Plan.pipeline, runStages]
  | some e =>
    have hCompares := h e hCondition
    obtain ⟨f, hf, _⟩ := hCompares.exists_clauseOf caseSensitive (node.startAt p) ⟨[], []⟩
    have hFilter : (node.startAt p).filter ((node.startAt p).site caseSensitive) (some e) =
        .ok ((node.startAt p).add .filter f.toDocument) := by
      rw [Planning.filter, Site.filterDocument_eq_clauseOf, hf]
      rfl
    have hStages : ((node.startAt p).add .filter f.toDocument).plan.pipeline =
        [[("$match", .document f.toDocument)]] := by
      rw [Planning.add, Plan.pipeline, Plan.stages_add _ _ f.toDocument_ne_nil]
      rfl
    refine ⟨(node.startAt p).add .filter f.toDocument, ?_, rfl, ?_⟩
    · rw [planOne, hCondition, Expression.planOption, hCompares.plan_eq]
      change (node.startAt p).filter _ _ >>= _ = _
      rw [hFilter]
      rfl
    · intro catalog vars documents
      rw [hStages, List.map_singleton, runStages_cons, runStage_filter, filterStage_of_forall]
      · rfl
      · intro x _
        obtain ⟨f', hf', hDecides⟩ :=
          hCompares.exists_clauseOf caseSensitive (node.startAt p) ⟨x, vars⟩
        cases hf.symm.trans hf'
        exact hDecides.document

/-! Columns of what is joined so far -/

/-- The variables bind no column of the names. -/
def Correlations.Spare (cs : Correlations) (names : List String) : Prop :=
  ∀ name ∈ names, ∀ qualifier column, CaselessMap.sameName name qualifier = true →
    cs.nameOf? (.of qualifier column) = none

theorem Correlations.spare_nil (names : List String) : Correlations.Spare [] names := by
  intro _ _ _ _ _
  rfl

/-- Names that are one segment of a path. -/
def PlainName (name : String) : Prop :=
  name ≠ "" ∧ '.' ∉ name.toList ∧ Text.dollar name = false

/-- Names lead to the root and to the fields of the joins planned so far. -/
structure Planning.Knows (p : Planning) (rootName : String) (names : List String) : Prop where
  root : ∀ qualifier, CaselessMap.sameName rootName qualifier = true →
    p.scope.aliases.paths.get? qualifier = some ""
  joined : ∀ name ∈ names, ∀ qualifier, CaselessMap.sameName name qualifier = true →
    p.scope.aliases.paths.get? qualifier = some name

theorem JoinedRow.value_of_qualifier {r : JoinedRow} {ref : ColumnRef} {qualifier : String}
    (h : ref.qualifier = some qualifier) :
    r.value ref = ((r.source? qualifier).bind (·.path? (ColumnName.normalize ref.name))).getD
      .undefined := by
  rw [value, h, Option.bind_some]

theorem Text.dollar_append {a : String} (hEmpty : a ≠ "") (h : dollar a = false) (b : String) :
    dollar (a ++ b) = false := by
  rw [dollar, String.toList_append]
  cases hChars : a.toList with
  | nil => exact absurd (String.toList_eq_nil_iff.mp hChars) hEmpty
  | cons c cs =>
    rw [dollar, hChars] at h
    exact h

namespace Planning.Knows

variable {p : Planning} {rootName : String} {names : List String}

/-- A column is read from the document of a row as it is read from the row. -/
theorem reference_columnPath (h : p.Knows rootName names)
    (hSpare : p.scope.correlations.Spare (rootName :: names)) (hPlain : ∀ name ∈ names, PlainName name)
    {r : JoinedRow} (hr : r.Fits rootName names) {ref : ColumnRef}
    (hRef : ref.Readable rootName names names) (vars : Variables) :
    Environment.reference ⟨r.document, vars⟩ (p.scope.columnPath ref) = r.value ref := by
  obtain ⟨qualifier, hQualifier, name, hName, hSame⟩ := hRef.declared
  have hPath : p.scope.columnPath ref = p.scope.aliases.fieldPath (some qualifier) ref.name := by
    rw [Scope.columnPath, hQualifier, Option.getD_some, hSpare name hName qualifier ref.name hSame]
  rw [hPath, AliasTable.fieldPath, Option.getD_some, JoinedRow.value_of_qualifier hQualifier]
  obtain rfl | hName := List.mem_cons.mp hName
  · have hVisible : r.document.path? (ColumnName.normalize ref.name) =
        r.root.path? (ColumnName.normalize ref.name) := by
      refine Document.path?_congr fun segment hSegment => hr.get?_document_of_not_mem ?_
      intro hMem
      exact hRef.visible qualifier hQualifier hSame segment hMem hSegment
    rw [h.root qualifier hSame, hr.source?_root hSame]
    simp only [↓reduceIte]
    rw [reference_field hRef.path, Environment.fieldValue, hVisible, Option.bind_some]
  · obtain ⟨hEmpty, hDot, hDollar⟩ := hPlain name hName
    obtain ⟨found, hFound⟩ := hr.exists_mem hName
    rw [h.joined name hName qualifier hSame, hr.source?_of_mem hFound hSame]
    simp only [hEmpty, ↓reduceIte]
    have hDotted : "$" ++ name ++ "." ++ ColumnName.normalize ref.name =
        "$" ++ (name ++ "." ++ ColumnName.normalize ref.name) := by
      simp only [String.append_assoc]
    have hField : Text.dollar (name ++ "." ++ ColumnName.normalize ref.name) = false := by
      rw [String.append_assoc]
      exact Text.dollar_append hEmpty hDollar _
    rw [hDotted, reference_field hField, Environment.fieldValue, Document.path?_dotted _ hDot,
      hr.get?_document_of_mem hFound]
    cases found <;> simp

end Planning.Knows

/-! One join -/

/-- A join that is reached with the given names joined before it. -/
structure JoinNode.Reached (node : JoinNode) (p : Planning) (rootName : String)
    (names : List String) : Prop where
  knows : p.Knows rootName names
  spare : p.scope.correlations.Spare (rootName :: names)
  plain : ∀ name ∈ names, PlainName name
  apart : (rootName :: (names ++ [node.fieldAt p])).Pairwise fun a b =>
    CaselessMap.sameName a b = false
  compares : ∀ e, node.condition = some e →
    e.ComparesColumns (ColumnRef.Readable rootName (names ++ [node.fieldAt p]) names)
  spelling : ∀ e, node.condition = some e → e.SpellsAlike

namespace JoinNode.Reached

variable {node : JoinNode} {p : Planning} {rootName : String} {names : List String}

theorem sameName_eq_false (h : node.Reached p rootName names) {name qualifier : String}
    (hName : name ∈ rootName :: names) (hSame : CaselessMap.sameName name qualifier = true) :
    CaselessMap.sameName qualifier (node.fieldAt p) = false := by
  have hApart : CaselessMap.sameName name (node.fieldAt p) = false := by
    have hSplit := h.apart
    rw [← List.cons_append, List.pairwise_append] at hSplit
    exact hSplit.2.2 name hName _ (List.mem_singleton.mpr rfl)
  unfold CaselessMap.sameName at hApart ⊢
  rwa [← CaselessMap.sameName_iff.mp hSame]

theorem binds (h : node.Reached p rootName names) {name qualifier : String}
    (hName : name ∈ rootName :: names) (hSame : CaselessMap.sameName name qualifier = true) :
    node.binds p qualifier = true := by
  have hKnown : p.scope.aliases.contains qualifier = true := by
    rw [AliasTable.contains, CaselessMap.contains_eq_isSome]
    obtain rfl | hName := List.mem_cons.mp hName
    · rw [h.knows.root qualifier hSame]
      rfl
    · rw [h.knows.joined name hName qualifier hSame]
      rfl
  rw [JoinNode.binds, h.sameName_eq_false hName hSame, hKnown]
  rfl

/-- A column of what is joined before is read from a variable that has been read from the row. -/
theorem exists_variable (h : node.Reached p rootName names) {r : JoinedRow}
    (hr : r.Fits rootName names) {vars out : Variables}
    (hOut : Lookup.bind ⟨r.document, vars⟩ vars (node.startAt p).scope.correlations.toDocument =
      .ok out) {e : Expression} (he : node.condition = some e) {ref : ColumnRef}
    (hRef : ref ∈ e.outerColumns []) {qualifier name : String}
    (hQualifier : ref.qualifier = some qualifier) (hName : name ∈ rootName :: names)
    (hSame : CaselessMap.sameName name qualifier = true) :
    ∃ index, (node.startAt p).scope.columnPath ref = "$$" ++ Correlations.variableName index ∧
      Fields.get? out (Correlations.variableName index) = some (r.value ref) := by
  obtain ⟨index, ref', hRef', qualifier', hQualifier', hKey, hPath, hBinding⟩ :=
    columnPath_startAt_of_binds he hRef hQualifier (h.binds hName hSame) (.on node.table)
  obtain ⟨hLower, hFold⟩ := CorrelationKey.of_eq_iff.mp hKey
  -- The variable stands for a column of the same key, which has the same value.
  have hSame' : CaselessMap.sameName name qualifier' = true := by
    rwa [CaselessMap.sameName_congr_right hLower]
  have hReadable' := (h.compares e he).known_of_mem hRef'
  have hRead := h.knows.reference_columnPath h.spare h.plain hr
    ⟨⟨qualifier', hQualifier', name, hName, hSame'⟩, hReadable'.path, hReadable'.visible⟩ vars
  have hNormal : ColumnName.normalize ref'.name = ColumnName.normalize ref.name := by
    refine h.spelling e he ref' hRef' ref hRef ?_ hFold
    rw [hQualifier, hQualifier', Option.map_some, Option.map_some, hLower]
  have hEqual : r.value ref' = r.value ref := by
    rw [JoinedRow.value_of_qualifier hQualifier', JoinedRow.value_of_qualifier hQualifier, hNormal,
      r.source?_congr hLower]
  have hSome : (node.startAt p).scope.correlations ≠ [] := by
    intro hNil
    rw [hNil] at hBinding
    cases hBinding
  have hNumbered : (node.startAt p).scope.correlations.Numbered := by
    rw [correlations_startAt]
    exact Correlations.numbered_bindColumns Correlations.numbered_nil _
  rw [Lookup.binding?_lookupDocument _ _ hSome] at hBinding
  obtain ⟨v, hv, hVariable⟩ :=
    Lookup.get?_bind hOut hNumbered.distinct (Fields.mem_of_get? hBinding)
  refine ⟨index, hPath, ?_⟩
  rw [hVariable, ← hEqual, ← hRead]
  exact congrArg some (Except.ok.inj hv).symm

/-- Within the pipeline of a join, a column is read as from the row with the document attached. -/
theorem reference_startAt (h : node.Reached p rootName names) {r : JoinedRow}
    (hr : r.Fits rootName names) {vars out : Variables}
    (hOut : Lookup.bind ⟨r.document, vars⟩ vars (node.startAt p).scope.correlations.toDocument =
      .ok out) (x : Document) {e : Expression} (he : node.condition = some e) {ref : ColumnRef}
    (hRef : ref ∈ e.outerColumns []) :
    Environment.reference ⟨x, out⟩ ((node.startAt p).scope.columnPath ref) =
      (r.attach (node.fieldAt p) (some x)).value ref := by
  have hAttached := hr.attach (some x) h.apart
  have hReadable := (h.compares e he).known_of_mem hRef
  obtain ⟨qualifier, hQualifier, name, hName, hSame⟩ := hReadable.declared
  rw [JoinedRow.value_of_qualifier hQualifier]
  rw [← List.cons_append, List.mem_append, List.mem_singleton] at hName
  obtain hName | rfl := hName
  · obtain ⟨index, hPath, hVariable⟩ := h.exists_variable hr hOut he hRef hQualifier hName hSame
    rw [hPath, reference_variable _ (Correlations.dot_not_mem_variableName index)
      (Correlations.variableName_ne_special index), hVariable, Option.getD_some,
      hr.source?_attach (some x) h.apart hName hSame, JoinedRow.value_of_qualifier hQualifier]
  · have hOwn : node.binds p qualifier = false := by
      rw [JoinNode.binds, CaselessMap.sameName_comm, hSame]
      rfl
    have hMem : (node.fieldAt p, some x) ∈ (r.attach (node.fieldAt p) (some x)).joined :=
      List.mem_append_right _ (List.mem_singleton.mpr rfl)
    rw [columnPath_startAt_of_not_binds hQualifier hOwn, reference_field hReadable.path,
      hAttached.source?_of_mem hMem hSame, Environment.fieldValue, Option.bind_some]

theorem exists_bind (env : Environment) (inner : Variables) (node : JoinNode) (p : Planning) :
    ∃ out, Lookup.bind env inner (node.startAt p).scope.correlations.toDocument = .ok out := by
  refine Lookup.exists_bind ?_ inner
  intro binding hBinding
  obtain ⟨c, hc, rfl⟩ := List.mem_map.mp hBinding
  rw [correlations_startAt] at hc
  obtain hNil | ⟨ref, _, qualifier, _, _, _, hValue⟩ := Correlations.mem_bindColumns hc
  · cases hNil
  · rw [hValue]
    exact ⟨_, rfl⟩

theorem filter_eq_matching (h : node.Reached p rootName names) {r : JoinedRow}
    (hr : r.Fits rootName names) {vars out : Variables}
    (hOut : Lookup.bind ⟨r.document, vars⟩ vars (node.startAt p).scope.correlations.toDocument =
      .ok out) (catalog : Catalog) :
    (catalog.collection node.table).filter (fun x => node.condition.all (·.holdsOf fun ref =>
        Environment.reference ⟨x, out⟩ ((node.startAt p).scope.columnPath ref))) =
      r.matching catalog (node.fieldAt p) node := by
  refine List.filter_congr fun x _ => ?_
  cases hCondition : node.condition with
  | none => rfl
  | some e =>
    have hColumns : e.ComparesColumns fun ref => ref ∈ e.outerColumns [] :=
      (h.compares e hCondition).mem_outerColumns fun ref hRef => by
        obtain ⟨qualifier, hQualifier, _⟩ := hRef.declared
        exact ⟨qualifier, hQualifier⟩
    exact hColumns.holdsOf_congr fun ref hRef => h.reference_startAt hr hOut x hCondition hRef

/-- Attaching what a lookup finds and spreading the document over it makes the rows of the join. -/
theorem unwind_matching (catalog : Catalog) (name : String) (node : JoinNode) (r : JoinedRow) :
    unwind name (node.kind ≠ .inner)
        (Fields.insert r.document name (.array ((r.matching catalog name node).map .document))) =
      (r.join catalog name node).map JoinedRow.document := by
  rw [unwind_insert, JoinedRow.join]
  cases r.matching catalog name node with
  | nil => cases node.kind <;> simp [JoinedRow.write]
  | cons x found => simp [JoinedRow.write]

/-- The stages of one join take the documents of rows to those of the rows after the join. -/
theorem exists_planOne (h : node.Reached p rootName names) (caseSensitive : Bool) :
    ∃ q lookup spread, node.planOne caseSensitive p = .ok q ∧
      q.plan.stages = p.plan.stages ++ [lookup, spread] ∧
      q.scope = p.scope.registerAlias (node.fieldAt p) (node.fieldAt p) ∧
      ∀ (catalog : Catalog) (vars : Variables) (rows : List JoinedRow),
        (∀ r ∈ rows, r.Fits rootName names) →
        runStages catalog vars ([lookup, spread].map fun s => .document s.toDocument)
            (rows.map JoinedRow.document) =
          .ok ((rows.flatMap (JoinedRow.join catalog (node.fieldAt p) node)).map
            JoinedRow.document) := by
  obtain ⟨joined, hPlanned, hScope, hRun⟩ := JoinNode.exists_joined h.compares caseSensitive p
  refine ⟨_, ⟨.lookup, .document (lookupDocument node.table (node.fieldAt p)
    joined.scope.correlations joined.plan)⟩, ⟨.unwind, .document (unwindDocument (node.fieldAt p)
    (node.kind ≠ .inner))⟩, hPlanned, ?_, rfl, ?_⟩
  · dsimp only [Planning.attachJoin, Planning.add]
    rw [Plan.stages_add _ _ (by simp [unwindDocument]),
      Plan.stages_add _ _ (Planning.lookupDocument_ne_nil _ _ _ _), List.append_assoc]
    rfl
  · intro catalog vars rows hRows
    have hLookup : eachDocument (Lookup.attach ⟨node.table, node.fieldAt p,
          joined.scope.correlations.toDocument⟩ vars fun inner =>
          runStages catalog inner (joined.plan.pipeline.map .document)
            (catalog.collection node.table)) (rows.map JoinedRow.document) =
        .ok (rows.map fun r => Fields.insert r.document (node.fieldAt p)
          (.array ((r.matching catalog (node.fieldAt p) node).map .document))) := by
      rw [eachDocument_eq_ok_iff, List.forall₂_map_left_iff, List.forall₂_map_right_iff,
        List.forall₂_same]
      intro r hr
      obtain ⟨out, hOut⟩ := exists_bind ⟨r.document, vars⟩ vars node p
      rw [Lookup.attach, hScope, hOut]
      change (runStages _ _ _ _ >>= _) = _
      rw [hRun, h.filter_eq_matching (hRows r hr) hOut]
      rfl
    have hSpread : (rows.map fun r => Fields.insert r.document (node.fieldAt p)
          (.array ((r.matching catalog (node.fieldAt p) node).map .document))).flatMap
          (unwind (node.fieldAt p) (node.kind ≠ .inner)) =
        (rows.flatMap (JoinedRow.join catalog (node.fieldAt p) node)).map JoinedRow.document := by
      rw [List.flatMap_map, List.map_flatMap]
      exact List.flatMap_congr fun r _ => unwind_matching catalog (node.fieldAt p) node r
    rw [List.map_cons, List.map_singleton, runStages_cons]
    dsimp only [Stage.toDocument, StageKind.operator]
    rw [runStage_lookup, hLookup]
    change runStages _ _ _ _ = _
    rw [runStages_cons, runStage_unwind, hSpread]
    rfl

end JoinNode.Reached

/-! All joins of a statement -/

theorem JoinNode.planAll_eq_foldlM (caseSensitive : Bool) : ∀ (ns : List JoinNode) (p : Planning),
    JoinNode.planAll caseSensitive ns p =
      (preorder ns).foldlM (fun p n => n.planOne caseSensitive p) p
  | [], _ => by
    rw [planAll, preorder]
    rfl
  | ⟨table, aliasName, kind, condition, joins⟩ :: rest, p => by
    rw [planAll_cons, preorder, subtree, List.cons_append, List.foldlM_cons]
    congr 1
    funext one
    rw [List.foldlM_append, planAll_eq_foldlM caseSensitive joins one]
    congr 1
    funext below
    exact planAll_eq_foldlM caseSensitive rest below

theorem JoinNode.fieldName_ne_empty (table : String) (aliasName : Option String) (n : Nat) :
    fieldName table aliasName n ≠ "" := by
  unfold fieldName
  split
  · rename_i hName
    simpa using (Option.filter_eq_some_iff.mp hName).2
  · split
    · intro hEmpty
      have hChars := congrArg String.toList hEmpty
      rw [String.toList_append] at hChars
      cases hChars
    · assumption

theorem JoinNode.ne_empty_of_mem_named {joins : List JoinNode} {n : Nat} {join : String × JoinNode}
    (h : join ∈ named n joins) : join.1 ≠ "" := by
  induction joins generalizing n with
  | nil => cases h
  | cons node joins ih =>
    cases h with
    | head => exact fieldName_ne_empty _ _ _
    | tail _ h => exact ih h

theorem Planning.Knows.register {p q : Planning} {rootName : String} {names : List String}
    (h : p.Knows rootName names) {name : String}
    (hScope : q.scope = p.scope.registerAlias name name)
    (hApart : (rootName :: (names ++ [name])).Pairwise fun a b => CaselessMap.sameName a b = false) :
    q.Knows rootName (names ++ [name]) := by
  have hPath : ∀ qualifier, q.scope.aliases.paths.get? qualifier =
      if CaselessMap.sameName name qualifier then some name
      else p.scope.aliases.paths.get? qualifier := by
    intro qualifier
    rw [hScope]
    exact CaselessMap.get?_insert _ _ _ _
  rw [← List.cons_append, List.pairwise_append] at hApart
  -- The names before lead where they led, since the new one is none of them.
  have hBefore : ∀ other ∈ rootName :: names, ∀ qualifier,
      CaselessMap.sameName other qualifier = true → q.scope.aliases.paths.get? qualifier =
        p.scope.aliases.paths.get? qualifier := by
    intro other hOther qualifier hSame
    have hOthers := hApart.2.2 other hOther name (List.mem_singleton.mpr rfl)
    have hDiffers : CaselessMap.sameName name qualifier = false := by
      rw [← CaselessMap.sameName_congr_right (CaselessMap.sameName_iff.mp hSame),
        CaselessMap.sameName_comm, hOthers]
    rw [hPath, hDiffers]
    rfl
  refine ⟨fun qualifier hSame => ?_, fun other hOther qualifier hSame => ?_⟩
  · rw [hBefore rootName (.head _) qualifier hSame, h.root qualifier hSame]
  · obtain hOther | hOther := List.mem_append.mp hOther
    · rw [hBefore other (.tail _ hOther) qualifier hSame, h.joined other hOther qualifier hSame]
    · obtain rfl := List.mem_singleton.mp hOther
      rw [hPath, if_pos hSame]

theorem JoinedRow.Fits.of_mem_join {r r' : JoinedRow} {rootName : String} {names : List String}
    (h : r.Fits rootName names) {name : String}
    (hApart : (rootName :: (names ++ [name])).Pairwise fun a b => CaselessMap.sameName a b = false)
    {catalog : Catalog} {node : JoinNode} (hr : r' ∈ r.join catalog name node) :
    r'.Fits rootName (names ++ [name]) := by
  have hAttached : ∃ found, r' = r.attach name found := by
    unfold join at hr
    split at hr
    · cases hr
    · exact ⟨none, List.mem_singleton.mp hr⟩
    · obtain ⟨x, _, rfl⟩ := List.mem_map.mp hr
      exact ⟨some x, rfl⟩
  obtain ⟨found, rfl⟩ := hAttached
  exact h.attach found hApart

namespace Statement.JoinsByColumns

variable {s : Statement}

theorem reached (h : s.JoinsByColumns) {before after : List (String × JoinNode)} {node : JoinNode}
    {p : Planning} (hSplit : s.namedJoins = before ++ (node.fieldAt p, node) :: after)
    (hKnows : p.Knows s.rootName (before.map Prod.fst))
    (hSpare : p.scope.correlations.Spare s.names) :
    node.Reached p s.rootName (before.map Prod.fst) := by
  have hNames : s.namedJoins.map Prod.fst =
      (before.map Prod.fst ++ [node.fieldAt p]) ++ after.map Prod.fst := by
    rw [hSplit, List.map_append, List.map_cons, List.append_assoc]
    rfl
  have hMem : (node.fieldAt p, node) ∈ s.namedJoins := by
    rw [hSplit]
    exact List.mem_append_right _ (.head _)
  have hSubset : ∀ name ∈ before.map Prod.fst, name ∈ s.namedJoins.map Prod.fst := by
    intro name hName
    rw [hNames]
    exact List.mem_append_left _ (List.mem_append_left _ hName)
  refine ⟨hKnows, ?_, ?_, ?_, ?_, h.spelling _ hMem⟩
  · intro name hName
    obtain rfl | hName := List.mem_cons.mp hName
    · exact hSpare _ (.head _)
    · exact hSpare name (.tail _ (hSubset name hName))
  · intro name hName
    obtain ⟨join, hJoin, rfl⟩ := List.mem_map.mp (hSubset name hName)
    exact ⟨JoinNode.ne_empty_of_mem_named hJoin, h.plain join hJoin⟩
  · have hApart := h.apart
    rw [Statement.names, hNames, ← List.cons_append, List.pairwise_append] at hApart
    exact hApart.1
  · intro e he
    refine (h.compares before _ after hSplit e he).mono fun ref hRef => ?_
    refine ⟨?_, hRef.path, fun qualifier hQualifier hSame name hName =>
      hRef.visible qualifier hQualifier hSame name (hSubset name hName)⟩
    simpa using hRef.declared

/-- Planning the joins from some point on appends stages that loop over the remaining joins. -/
theorem exists_foldlM (h : s.JoinsByColumns) {cs : Correlations} (hSpare : cs.Spare s.names)
    (caseSensitive : Bool) (joins : List JoinNode) : ∀ (before : List (String × JoinNode))
    (p : Planning), s.namedJoins = before ++ JoinNode.named p.plan.stages.length joins →
    p.Knows s.rootName (before.map Prod.fst) → p.scope.correlations = cs →
    ∃ q stages, joins.foldlM (fun p n => n.planOne caseSensitive p) p = .ok q ∧
      q.plan.stages = p.plan.stages ++ stages ∧
      ∀ (catalog : Catalog) (vars : Variables) (rows : List JoinedRow),
        (∀ r ∈ rows, r.Fits s.rootName (before.map Prod.fst)) →
        runStages catalog vars (stages.map fun s => .document s.toDocument)
            (rows.map JoinedRow.document) =
          .ok ((rows.flatMap (JoinedRow.nestedLoop catalog
            (JoinNode.named p.plan.stages.length joins))).map JoinedRow.document) := by
  induction joins with
  | nil =>
    intro before p _ _ _
    refine ⟨p, [], rfl, (List.append_nil _).symm, ?_⟩
    intro catalog vars rows _
    have hSame : rows.flatMap (JoinedRow.nestedLoop catalog []) = rows := by
      simp [JoinedRow.nestedLoop]
    rw [JoinNode.named, hSame]
    rfl
  | cons node joins ih =>
    intro before p hSplit hKnows hCorrelations
    have hReached : node.Reached p s.rootName (before.map Prod.fst) :=
      h.reached hSplit hKnows (hCorrelations ▸ hSpare)
    obtain ⟨one, lookup, spread, hOne, hStages, hScope, hRun⟩ :=
      hReached.exists_planOne caseSensitive
    have hLength : one.plan.stages.length = p.plan.stages.length + 2 := by
      rw [hStages, List.length_append]
      rfl
    have hNames : (before ++ [(node.fieldAt p, node)]).map Prod.fst =
        before.map Prod.fst ++ [node.fieldAt p] := List.map_append
    obtain ⟨q, stages, hRest, hRestStages, hRestRun⟩ := ih (before ++ [(node.fieldAt p, node)]) one
      (by rw [hSplit, hLength, List.append_assoc]; rfl)
      (by rw [hNames]; exact hKnows.register hScope hReached.apart)
      (by rw [hScope]; exact hCorrelations)
    refine ⟨q, [lookup, spread] ++ stages, ?_, ?_, ?_⟩
    · rw [List.foldlM_cons, hOne]
      exact hRest
    · rw [hRestStages, hStages, List.append_assoc]
    · intro catalog vars rows hRows
      have hJoined : ∀ r ∈ rows.flatMap (JoinedRow.join catalog (node.fieldAt p) node),
          r.Fits s.rootName ((before ++ [(node.fieldAt p, node)]).map Prod.fst) := by
        intro r hr
        obtain ⟨r', hr', hMem⟩ := List.mem_flatMap.mp hr
        rw [hNames]
        exact (hRows r' hr').of_mem_join hReached.apart hMem
      rw [List.map_append, runStages_append, hRun catalog vars rows hRows]
      change runStages catalog vars _ _ = _
      rw [hRestRun catalog vars _ hJoined, List.flatMap_assoc, hLength]
      rfl

end Statement.JoinsByColumns

/-- The joins of a statement can be planned, and on every catalog and all root documents the stages
that they become, which any plan of the statement begins with, yield in order the rows of the
nested-loop join. -/
theorem Statement.runStages_joins_eq_nestedLoop (s : Statement) (h : s.JoinsByColumns)
    (caseSensitive : Bool) (cs : Correlations) (hSpare : cs.Spare s.names) :
    ∃ p, JoinNode.planAll caseSensitive s.joins (.start s.table s.rootName cs) = .ok p ∧
      (∀ q g, s.planSource caseSensitive cs = .ok (q, g) → p.plan.stages <+: q.plan.stages) ∧
      ∀ (catalog : Catalog) (vars : Variables) (documents : List Document),
        (∀ d ∈ documents, Fields.Distinct d) →
        runStages catalog vars (p.plan.pipeline.map .document) documents =
          .ok ((documents.flatMap fun d => JoinedRow.nestedLoop catalog s.namedJoins
            (.ofRoot s.rootName d)).map JoinedRow.document) := by
  have hStart : (Planning.start s.table s.rootName cs).Knows s.rootName [] := by
    refine ⟨fun qualifier hSame => ?_, nofun⟩
    exact (CaselessMap.get?_insert _ _ _ _).trans (if_pos hSame)
  obtain ⟨p, stages, hPlanned, hStages, hRun⟩ := h.exists_foldlM hSpare caseSensitive s.joinNodes []
    (.start s.table s.rootName cs) rfl hStart rfl
  rw [Statement.joinNodes, ← JoinNode.planAll_eq_foldlM] at hPlanned
  refine ⟨p, hPlanned, ?_, ?_⟩
  · intro q g hSource
    obtain ⟨joined, p', hJoined, hAdds, hNarrow⟩ := Statement.exists_of_planSource hSource
    cases hPlanned.symm.trans hJoined
    exact hAdds.grows.stages.trans (Planning.extends_narrow hNarrow).1.stages
  · intro catalog vars documents hDistinct
    have hRows : ∀ r ∈ documents.map (JoinedRow.ofRoot s.rootName),
        r.Fits s.rootName (List.map Prod.fst ([] : List (String × JoinNode))) := by
      intro r hr
      obtain ⟨d, hd, rfl⟩ := List.mem_map.mp hr
      exact ⟨rfl, rfl, List.pairwise_singleton _ _, hDistinct d hd⟩
    have hDocuments : (documents.map (JoinedRow.ofRoot s.rootName)).map JoinedRow.document =
        documents := by
      simp [JoinedRow.document, JoinedRow.ofRoot, Function.comp_def]
    have hPipeline : p.plan.pipeline.map Value.document =
        stages.map fun s => .document s.toDocument := by
      rw [Plan.pipeline, hStages, List.map_map]
      rfl
    have hLoop := hRun catalog vars _ hRows
    rw [hDocuments, List.flatMap_map] at hLoop
    rw [hPipeline]
    exact hLoop

/-- Orders with their lines, the product of each line and all notes. Lines and products may be
absent. -/
def Statement.orderLines : Statement :=
  let column (qualifier name : String) : Expression := .column ⟨some qualifier, name, .int32⟩
  { Statement.empty with
    table := "orders"
    aliasName := some "o"
    joins :=
      [⟨"lines", some "l", .left,
          some (.group .and
            [.binary .equal (column "l" "order") (column "o" "id"),
             .binary .greater (column "L" "quantity") (column "o" "least")]),
          [⟨"products", some "p", .left,
            some (.binary .equal (column "p" "id") (column "l" "product")), []⟩]⟩,
       ⟨"notes", none, .inner, none, []⟩] }

theorem Statement.joinsByColumns_orderLines : orderLines.JoinsByColumns where
  apart := by decide
  plain := by decide
  compares := by
    have hReadable : ∀ names qualifier name columnType,
        (∃ other ∈ "o" :: names, CaselessMap.sameName other qualifier = true) →
        Text.dollar (ColumnName.normalize name) = false →
        (pathSegments (ColumnName.normalize name)).head? ∉ [some "l", some "p", some "notes"] →
        ColumnRef.Readable "o" names ["l", "p", "notes"] ⟨some qualifier, name, columnType⟩ := by
      intro names qualifier name columnType hDeclared hPath hVisible
      refine ⟨⟨qualifier, rfl, hDeclared⟩, hPath, fun _ _ _ other hOther hHead => hVisible ?_⟩
      rw [hHead]
      simpa using hOther
    rintro before join after hSplit e he
    rcases before with _ | ⟨first, _ | ⟨second, _ | ⟨third, before⟩⟩⟩
    · cases hSplit
      cases he
      refine .group ?_
      rintro e (_ | ⟨_, _ | ⟨_, ⟨⟩⟩⟩)
      · exact .comparison rfl (hReadable _ _ _ _ (by decide) (by decide) (by decide))
          (hReadable _ _ _ _ (by decide) (by decide) (by decide))
      · exact .comparison rfl (hReadable _ _ _ _ (by decide) (by decide) (by decide))
          (hReadable _ _ _ _ (by decide) (by decide) (by decide))
    · cases hSplit
      cases he
      exact .comparison rfl (hReadable _ _ _ _ (by decide) (by decide) (by decide))
          (hReadable _ _ _ _ (by decide) (by decide) (by decide))
    · cases hSplit
      cases he
    · have hLength := congrArg List.length hSplit
      simp [namedJoins, orderLines, joinNodes, JoinNode.preorder, JoinNode.subtree,
        JoinNode.named] at hLength
  spelling := by
    rintro join (_ | ⟨_, _ | ⟨_, _ | ⟨_, ⟨⟩⟩⟩⟩) e ⟨⟩
    · decide
    · decide

theorem Statement.runStages_joins_orderLines :
    let catalog : Catalog :=
      [("lines", [[("order", .int32 1), ("product", .int32 7), ("quantity", .int32 3)],
          [("order", .int32 1), ("quantity", .int32 5)], [("order", .int32 2)]]),
       ("products", [[("id", .int32 7)]]), ("notes", [[("text", .string "paid")]])]
    let documents : List Document :=
      [[("id", .int32 1), ("least", .int32 2)], [("id", .int32 2), ("least", .null)]]
    orderLines.JoinsByColumns ∧ Correlations.Spare [] orderLines.names ∧
      (∀ d ∈ documents, Fields.Distinct d) ∧
      ∃ p, JoinNode.planAll false orderLines.joins (.start "orders" "o" []) = .ok p ∧
        runStages catalog [] (p.plan.pipeline.map .document) documents = .ok
          [[("id", .int32 1), ("least", .int32 2),
              ("l", .document
                [("order", .int32 1), ("product", .int32 7), ("quantity", .int32 3)]),
              ("p", .document [("id", .int32 7)]), ("notes", .document [("text", .string "paid")])],
            [("id", .int32 1), ("least", .int32 2),
              ("l", .document [("order", .int32 1), ("quantity", .int32 5)]),
              ("notes", .document [("text", .string "paid")])],
            [("id", .int32 2), ("least", .null),
              ("notes", .document [("text", .string "paid")])]] := by
  intro catalog documents
  have hDistinct : ∀ d ∈ documents, Fields.Distinct d := by
    simp only [documents]
    decide
  obtain ⟨p, hPlanned, _, hRun⟩ := runStages_joins_eq_nestedLoop orderLines
    joinsByColumns_orderLines false [] (Correlations.spare_nil _)
  refine ⟨joinsByColumns_orderLines, Correlations.spare_nil _, hDistinct, p, hPlanned, ?_⟩
  rw [hRun catalog [] documents hDistinct]
  rfl

end RelPipe
