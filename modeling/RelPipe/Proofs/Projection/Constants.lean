import RelPipe.Proofs.Calendar.Rfc3339
import RelPipe.Proofs.Projection.Cells
import RelPipe.Proofs.Projection.FieldNames
import RelPipe.Proofs.Uuid

/-!
Selected constants. A constant is compiled, written into a projection, computed on a document and
read as a cell; on this way no number is taken for a mark, no text for a path, and no identifier for
bytes or the other way round. A statement that selects constants alone therefore runs on every
catalog and shows them unchanged.
-/

namespace RelPipe

set_option autoImplicit false

open Pipeline

/-- The cell that a constant is shown in. It holds the value of the constant. -/
inductive Constant.ShownIn : Constant → Cell → Prop
  | null : ShownIn .null .null
  | boolean (b : Bool) : ShownIn (.boolean b) (.boolean b)
  | int32 (n : Int32) : ShownIn (.int32 n) (.int32 n)
  | int64 (n : Int64) : ShownIn (.int64 n) (.int64 n)
  | double (x : Number.Binary64) : ShownIn (.double x) (.double x)
  | decimal {text : String} {d : Number.Decimal128}
    (h : Number.Decimal128.ofText? text.toList = some d) : ShownIn (.decimal text) (.decimal d)
  | string (s : String) : ShownIn (.string s) (.string s)
  | dateTime {millis : Int64} {i : Calendar.Instant} (hNanos : i.nanos < 1000000000)
    (h : i.toNanos = 1000000 * millis.toInt) : ShownIn (.dateTime millis) (.dateTime i)
  /-- An instant that no text denotes may lie outside the range of cells. It is moved to the nearest
  end of the range. -/
  | outside {millis : Int64} {i : Calendar.Instant}
    (hText : ∀ text, Calendar.Rfc3339.millis? text ≠ some millis.toInt)
    (h : 1000000 * millis.toInt < Value.minInstant.toNanos ∧ i = Value.minInstant ∨
      Value.maxInstant.toNanos < 1000000 * millis.toInt ∧ i = Value.maxInstant) :
    ShownIn (.dateTime millis) (.dateTime i)
  | guid (id : Uuid) : ShownIn (.guid id) (.guid id)
  | bytes (content : List UInt8) : ShownIn (.bytes content) (.bytes content)

/-- An output column that is a constant is shown in a cell. -/
def OutputColumn.KeepsConstant (o : OutputColumn) (cell : Cell) : Prop :=
  ∃ c, o.expression = .constant c ∧ c.ShownIn cell

/-- Statements that select constants without aliases and do nothing else. -/
structure Statement.SelectsConstants (s : Statement) : Prop where
  constants : ∀ o ∈ s.operands, ∃ c, o.expression = .constant c
  aliases : ∀ o ∈ s.operands, o.explicitAlias? = none
  joins : s.joins = []
  condition : s.condition = none
  groupBy : s.groupBy = []
  having : s.having = none
  sorts : s.sorts = []
  skip : s.skip = none
  limit : s.limit = none

/-! From constants to cells -/

theorem Constant.isMissing_value {c : Constant} {v : Value} (h : c.value = .ok v) :
    v.isMissing = false := by
  by_cases hc : c = .null
  · subst hc
    cases h
    rfl
  · have hLiteral := Constant.isLiteral_value h hc
    cases v <;> first | rfl | cases hLiteral

/-- What is read from a text lies well inside the range of cells. -/
theorem Constant.ne_millis?_of_outside {ms : Int}
    (h : 1000000 * ms < Value.minInstant.toNanos ∨ Value.maxInstant.toNanos < 1000000 * ms)
    (text : List Char) : Calendar.Rfc3339.millis? text ≠ some ms := by
  intro hRead
  have hBound := Calendar.Rfc3339.natAbs_le_of_millis? hRead
  simp only [Calendar.Instant.toNanos, Value.minInstant, Value.maxInstant] at h
  omega

theorem Constant.shownIn_instant (millis : Int64) :
    (Constant.dateTime millis).ShownIn (.dateTime (Value.instantOfMillis millis)) := by
  have hNanos := Calendar.Rfc3339.toNanos_ofMillis millis.toInt
  have hRest : (Calendar.Instant.ofMillis millis.toInt).nanos ≤ 999000000 := by
    have hLow : 0 ≤ millis.toInt.fmod 1000 := Int.fmod_nonneg_of_pos _ (by decide)
    have hHigh : millis.toInt.fmod 1000 < 1000 := Int.fmod_lt_of_pos _ (by decide)
    simp only [Calendar.Instant.ofMillis]
    omega
  unfold Value.instantOfMillis
  dsimp only
  split
  · rename_i hEarly
    have hBefore : 1000000 * millis.toInt < Value.minInstant.toNanos := by
      rw [← hNanos]
      simp only [Calendar.Instant.toNanos, Value.minInstant] at hEarly ⊢
      omega
    exact .outside (ne_millis?_of_outside (.inl hBefore)) (.inl ⟨hBefore, rfl⟩)
  · split
    · rename_i hLate
      have hAfter : Value.maxInstant.toNanos < 1000000 * millis.toInt := by
        rw [← hNanos]
        simp only [Calendar.Instant.toNanos, Value.maxInstant] at hLate ⊢
        omega
      exact .outside (ne_millis?_of_outside (.inr hAfter)) (.inr ⟨hAfter, rfl⟩)
    · exact .dateTime (by omega) hNanos

/-- The value of a constant, read as the type of the constant, is the constant again. -/
theorem Constant.shownIn_convert {c : Constant} {v : Value} (h : c.value = .ok v) :
    c.ShownIn (v.convert c.columnType) := by
  cases c with
  | decimal text =>
    rw [Constant.value] at h
    split at h
    · rename_i d hText
      cases h
      exact .decimal hText
    · cases h
  | dateTime millis =>
    cases h
    exact shownIn_instant millis
  | int32 n =>
    cases h
    have hCell : (Value.int32 n).convert .int32 = .int32 n.toInt64.toInt32 := rfl
    rw [columnType, hCell, Int32.toInt32_toInt64]
    exact .int32 n
  | guid id =>
    cases h
    have hCell : (Value.binary 4 id.bytes).convert .guid =
        ((Uuid.ofBytes? id.bytes).map .guid).getD (.bytes id.bytes) := rfl
    rw [columnType, hCell, Uuid.ofBytes?_bytes]
    exact .guid id
  | null | boolean b | int64 n | double x | string s | bytes content =>
    cases h
    constructor

theorem OutputColumn.Shows.keepsConstant {site : Site} {d : Document} {o : OutputColumn}
    {cell : Cell} (h : o.Shows site d cell) {c : Constant} (hc : o.expression = .constant c) :
    o.KeepsConstant cell := by
  obtain ⟨operand, v, hOperand, hv, rfl⟩ := h
  rw [hc, Site.compile_constant] at hOperand
  obtain ⟨w, hValue, rfl⟩ := exists_of_map_eq_ok hOperand
  cases hv
  refine ⟨c, hc, ?_⟩
  rw [Constant.isMissing_value hValue, hc]
  exact Constant.shownIn_convert hValue

/-! The names of the fields -/

theorem OutputColumn.indexName_injective : Function.Injective indexName := by
  intro i j h
  have hChars := congrArg String.toList h
  rw [indexName, indexName, String.toList_append, String.toList_append,
    List.append_cancel_left_eq] at hChars
  exact Text.Numeral.ofNat_injective (String.toList_injective hChars)

theorem OutputColumn.fieldNamesFrom_of_not_derives {os : List OutputColumn}
    (h : ∀ o ∈ os, o.explicitAlias? = none ∧ o.derives = false) (index : Nat)
    (used : CaselessMap Unit) :
    fieldNamesFrom index used os = (List.range' index os.length).map indexName := by
  induction os generalizing index used with
  | nil => rfl
  | cons o os ih =>
    obtain ⟨⟨hAlias, hDerives⟩, hRest⟩ := List.forall_mem_cons.mp h
    have hName : o.fieldName index used = indexName index := by
      rw [fieldName_eq hAlias, hDerives, if_neg (by simp), plainName_of_not_derives hDerives,
        sanitize_indexName]
    rw [fieldNamesFrom, ih hRest, hName]
    rfl

namespace Statement

variable {s : Statement}

theorem SelectsConstants.showsDocuments (hs : s.SelectsConstants) : s.ShowsDocuments where
  groupBy := hs.groupBy
  aggregates := by
    intro e he
    rw [hs.having, Option.toList_none, List.append_nil] at he
    obtain ⟨o, ho, rfl⟩ := List.mem_map.mp he
    obtain ⟨c, hc⟩ := hs.constants o ho
    rw [hc, Expression.localAggregates]
  sorts := hs.sorts
  outputNames := by
    rw [OutputColumn.fieldNames, OutputColumn.fieldNamesFrom_of_not_derives]
    · exact List.Nodup.map OutputColumn.indexName_injective List.nodup_range'
    · intro o ho
      obtain ⟨c, hc⟩ := hs.constants o ho
      exact ⟨hs.aliases o ho, by rw [OutputColumn.derives, hc]⟩

/-! The plan -/

theorem SelectsConstants.planSource (hs : s.SelectsConstants) (caseSensitive : Bool) :
    s.planSource caseSensitive [] = .ok (.start s.table (s.aliasName.getD "") [], .empty) := by
  have hExpressions : s.expressions = s.operands.map (·.expression) := by
    simp [expressions, hs.condition, hs.groupBy, hs.having, hs.sorts]
  have hPlanned (p : Planning) : Expression.planAll caseSensitive s.expressions p = .ok p := by
    refine Expression.planAll_of_forall fun e he => ?_
    rw [hExpressions] at he
    obtain ⟨o, ho, rfl⟩ := List.mem_map.mp he
    obtain ⟨c, hc⟩ := hs.constants o ho
    rw [hc]
    rfl
  have hNarrow (p : Planning) : p.narrow caseSensitive s = .ok (p, .empty) := by
    rw [Planning.narrow, hs.condition, hs.having, hs.showsDocuments.ofStatement_eq]
    rfl
  rw [planSource_eq, hs.joins]
  change (Expression.planAll caseSensitive s.expressions _ >>= _) = _
  rw [hPlanned]
  exact hNarrow _

theorem SelectsConstants.exists_projection (hs : s.SelectsConstants) {caseSensitive : Bool}
    {plan : Plan} {ctx : Context} (h : s.compile caseSensitive = .ok (plan, ctx)) :
    ∃ site specs, List.Forall₂ (Projection.Writes site) s.outputs specs ∧
      plan = ⟨s.table, [projectStage specs]⟩ := by
  obtain ⟨⟨source, grouping⟩, hSource, h⟩ := exists_of_bind_eq_ok h
  rw [hs.planSource] at hSource
  cases hSource
  obtain ⟨q, hProject, h⟩ := exists_of_bind_eq_ok h
  cases h
  obtain ⟨specs, helperSpecs, hSpecs, hHelpers, hPlan⟩ := Planning.exists_stages_of_project hProject
  have hNone := hs.showsDocuments.helpers_eq
  rw [hNone] at hHelpers
  cases hHelpers
  refine ⟨_, specs, hSpecs, ?_⟩
  rw [hPlan, List.append_nil, order, keeping, hNone, hs.sorts, hs.skip, hs.limit]
  rfl

/-! The run -/

theorem SelectsConstants.exists_row (hs : s.SelectsConstants) {site : Site}
    {specs : List (String × Value)}
    (hSpecs : List.Forall₂ (Projection.Writes site) s.outputs specs) (d : Document) :
    ∃ row, project [] (Fields.insertAll [("_id", .int32 0)] specs) d = .ok row := by
  rw [project_eq_projectFields]
  refine exists_projectFields fun field hField => ?_
  obtain hSpec | rfl := mem_of_mem_projectStage hField
  · obtain ⟨⟨name, e⟩, hOutput, _, operand, hOperand, hValue⟩ :=
      exists_of_mem_of_forall₂ hSpecs hSpec
    obtain ⟨column, hColumn, hPair⟩ := List.mem_map.mp hOutput
    obtain ⟨c, hc⟩ := hs.constants column.1 (List.of_mem_zip hColumn).1
    cases hPair
    rw [projected, hValue, Operand.flag?_projected (site.structured_compile _ _ hOperand),
      operand.evaluate_projected]
    rw [hc, Site.compile_constant] at hOperand
    obtain ⟨v, _, rfl⟩ := exists_of_map_eq_ok hOperand
    exact ⟨_, rfl⟩
  · -- the mark that leaves the identity out
    exact ⟨none, rfl⟩

/-- Selected constants are shown unchanged: the plan of the statement runs on every catalog, and
there is a row for each document of the table, with each constant in its own cell. -/
theorem constants_unchanged (hs : s.SelectsConstants) {caseSensitive : Bool} {plan : Plan}
    {ctx : Context} (h : s.compile caseSensitive = .ok (plan, ctx)) (catalog : Catalog) :
    ∃ documents, catalog.runPlan plan = .ok documents ∧
      (s.materialize documents).length = (catalog.collection s.table).length ∧
      ∀ row ∈ s.materialize documents,
        List.Forall₂ OutputColumn.KeepsConstant s.operands row := by
  obtain ⟨site, specs, hSpecs, rfl⟩ := hs.exists_projection h
  obtain ⟨documents, hProjected⟩ := exists_eachDocument
    fun d (_ : d ∈ catalog.collection s.table) => hs.exists_row hSpecs d
  have hRun : catalog.runPlan ⟨s.table, [projectStage specs]⟩ = .ok documents := by
    have hStage := runStages_one catalog [] (projectStage specs) (catalog.collection s.table)
    exact hStage.trans ((runStage_project catalog [] _ _).trans hProjected)
  have hRows := eachDocument_eq_ok_iff.mp hProjected
  refine ⟨documents, hRun, ?_, fun row hRow => ?_⟩
  · rw [materialize, List.length_map, hRows.length_eq]
  · obtain ⟨document, hDocument, rfl⟩ := List.mem_map.mp hRow
    obtain ⟨d, _, hProject⟩ := exists_of_mem_of_forall₂ hRows hDocument
    have hShown := forall₂_toRow hSpecs hs.showsDocuments.outputNames hProject
    refine ((List.forall₂_and_left _ _).mpr ⟨hs.constants, hShown⟩).imp ?_
    rintro o cell ⟨⟨c, hc⟩, hCell⟩
    exact hCell.keepsConstant hc

/-- Constants that look like marks, paths and variables, and one of every other kind. -/
def marksAndPaths : Statement :=
  { Statement.empty with
    table := "Orders"
    operands := [.null, .boolean false, .int32 0, .int64 1, .double (.zero true),
      .decimal "1.50", .string "$Owner", .string "$$ROOT", .string "", .dateTime (-1),
      .guid ⟨0x0123456789abcdef0123456789abcdef⟩, .bytes [0, 255]].map
        fun c => ⟨.constant c, none⟩ }

theorem constants_unchanged_marksAndPaths :
    marksAndPaths.SelectsConstants ∧
      ∃ plan ctx documents, marksAndPaths.compile true = .ok (plan, ctx) ∧
      ordersAndItems.runPlan plan = .ok documents ∧
      (marksAndPaths.materialize documents).length = 2 ∧
      ∀ row ∈ marksAndPaths.materialize documents,
        List.Forall₂ OutputColumn.KeepsConstant marksAndPaths.operands row := by
  have hs : marksAndPaths.SelectsConstants := by
    refine ⟨?_, by decide, rfl, rfl, rfl, rfl, rfl, rfl, rfl⟩
    simp [marksAndPaths]
  have hCompiles : (marksAndPaths.compile true).toOption.isSome = true := by decide +kernel
  obtain ⟨⟨plan, ctx⟩, hPlan⟩ := Option.isSome_iff_exists.mp hCompiles
  have hCompiled := eq_ok_of_toOption hPlan
  obtain ⟨documents, hRun, hLength, hRows⟩ := constants_unchanged hs hCompiled ordersAndItems
  exact ⟨hs, plan, ctx, documents, hCompiled, hRun, hLength, hRows⟩

end Statement

end RelPipe
