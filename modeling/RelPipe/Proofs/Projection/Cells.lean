import RelPipe.Proofs.Filter.Native
import RelPipe.Proofs.Projection.Stages
import RelPipe.Rows.Materialize

/-!
What the cells of a row show. Without groups and sort keys, each document that reaches the
projection becomes one row, and each cell of the row is the value of its own operand on this
document, whatever the operand is and however its field is called.
-/

namespace RelPipe

set_option autoImplicit false

open Pipeline

/-- The value of an operand on a document. A constant stands for itself. -/
def Operand.valueOn (env : Environment) : Operand → Result Value
  | .constant v => .ok v
  | o => evaluate env o.render

theorem Operand.evaluate_projected (o : Operand) (env : Environment) :
    evaluate env o.projected = o.valueOn env := by
  cases o with
  | constant v =>
    cases v with
    | string s => exact evaluate_quoted (v := .string s) rfl
    | _ => rfl
  | _ => rfl

/-- A cell shows the value of its operand in the type of its column, and nothing if the value is
missing. -/
def OutputColumn.Shows (site : Site) (d : Document) (o : OutputColumn) (cell : Cell) : Prop :=
  ∃ operand v, site.compile o.expression = .ok operand ∧ operand.valueOn ⟨d, []⟩ = .ok v ∧
    cell = if v.isMissing then .null else v.convert o.expression.columnType

theorem Document.field?_of_plain (d : Document) {name : String} (h : '.' ∉ name.toList) :
    d.field? name = Fields.get? d name := by
  rw [field?, path?_of_plain d h]
  cases Fields.get? d name <;> rfl

theorem Projection.exists_of_writes {site : Site} {fields : List (String × Expression)}
    {specs : List (String × Value)} (hSpecs : List.Forall₂ (Projection.Writes site) fields specs)
    (hNames : (fields.map Prod.fst).Nodup) {d row : Document}
    (h : project [] (Fields.insertAll [("_id", .int32 0)] specs) d = .ok row)
    {name : String} {e : Expression} (hField : (name, e) ∈ fields) :
    ∃ operand v, site.compile e = .ok operand ∧ operand.valueOn ⟨d, []⟩ = .ok v ∧
      Fields.get? row name = if v.isMissing then none else some v := by
  have hDistinct : Fields.Distinct specs := by
    rw [Fields.Distinct, names_eq_of_forall₂ (fun _ _ h => h.1) hSpecs]
    exact hNames
  have hWritten : List.Forall₂ (flip (Projection.Writes site)) specs fields := .flip hSpecs
  obtain ⟨⟨other, spec⟩, hSpec, hName, operand, hOperand, hValue⟩ :=
    exists_of_mem_of_forall₂ hWritten hField
  dsimp only at hName hOperand hValue
  subst hName hValue
  -- The field holds the value of the operand, since it is no flag, and is left out if it is missing.
  have hRead := (get?_of_project hDistinct h).2 other
  rw [Fields.get?_of_mem hDistinct hSpec, Option.elim_some, projected,
    Operand.flag?_projected (site.structured_compile _ _ hOperand), operand.evaluate_projected]
    at hRead
  obtain ⟨v, hv, hShown⟩ := exists_of_map_eq_ok hRead
  exact ⟨operand, v, hOperand, hv, hShown.symm⟩

namespace Statement

/-- Statements that show documents one by one in the order of their arrival, with a field for each
operand. -/
structure ShowsDocuments (s : Statement) : Prop where
  groupBy : s.groupBy = []
  aggregates : ∀ e ∈ s.operands.map (·.expression) ++ s.having.toList, e.localAggregates = []
  sorts : s.sorts = []
  outputNames : (OutputColumn.fieldNames s.operands).Nodup

variable {s : Statement}

theorem ShowsDocuments.ofStatement_eq (hs : s.ShowsDocuments) :
    Grouping.ofStatement s = .empty := by
  have hAggregates : (s.operands.map (·.expression) ++ s.having.toList).flatMap
      Expression.localAggregates = [] := List.flatMap_eq_nil_iff.mpr hs.aggregates
  rw [Grouping.ofStatement, hs.groupBy, hs.sorts, List.map_nil, List.append_nil, hAggregates]
  rfl

theorem ShowsDocuments.helpers_eq (hs : s.ShowsDocuments) : s.helpers Grouping.empty = [] := by
  rw [helpers, hs.sorts]
  rfl

def namedOperands (s : Statement) : List (OutputColumn × String) :=
  s.operands.zip (OutputColumn.fieldNames s.operands)

theorem length_fieldNames : (OutputColumn.fieldNames s.operands).length = s.operands.length :=
  OutputColumn.length_fieldNamesFrom 0 .empty s.operands

theorem operands_eq : s.operands = s.namedOperands.map Prod.fst := by
  rw [namedOperands, List.map_fst_zip (Nat.le_of_eq length_fieldNames.symm)]

theorem columns_eq : s.columns = s.namedOperands.map fun column =>
    ⟨column.2, column.1.expression.columnType⟩ := by
  rw [columns, namedOperands, List.map_zip_eq_zipWith, List.zipWith_comm]
  rfl

theorem shows_of_projected {site : Site} {specs : List (String × Value)}
    (hSpecs : List.Forall₂ (Projection.Writes site) s.outputs specs)
    (hNames : (OutputColumn.fieldNames s.operands).Nodup) {d row : Document}
    (h : project [] (Fields.insertAll [("_id", .int32 0)] specs) d = .ok row)
    {column : OutputColumn × String} (hColumn : column ∈ s.namedOperands) :
    column.1.Shows site d
      (ColumnDescriptor.cell ⟨column.2, column.1.expression.columnType⟩ row) := by
  have hField : (column.2, column.1.expression) ∈ s.outputs := List.mem_map.mpr ⟨_, hColumn, rfl⟩
  have hPlain : '.' ∉ column.2.toList := by
    refine not_mem_outputs (.inl rfl) (List.mem_map.mpr ⟨_, hField, rfl⟩)
  obtain ⟨operand, v, hOperand, hv, hShown⟩ :=
    Projection.exists_of_writes hSpecs (s.names_outputs ▸ hNames) h hField
  refine ⟨operand, v, hOperand, hv, ?_⟩
  rw [ColumnDescriptor.cell, Document.field?_of_plain row hPlain, hShown]
  cases v.isMissing <;> rfl

/-- The row of a projected document shows the operands, each in its own cell. -/
theorem forall₂_toRow {site : Site} {specs : List (String × Value)}
    (hSpecs : List.Forall₂ (Projection.Writes site) s.outputs specs)
    (hNames : (OutputColumn.fieldNames s.operands).Nodup) {d row : Document}
    (h : project [] (Fields.insertAll [("_id", .int32 0)] specs) d = .ok row) :
    List.Forall₂ (OutputColumn.Shows site d) s.operands (row.toRow s.columns) := by
  rw [Document.toRow, columns_eq, List.map_map, operands_eq, List.forall₂_map_left_iff,
    List.forall₂_map_right_iff, List.forall₂_same]
  exact fun column hColumn => shows_of_projected hSpecs hNames h hColumn

theorem forall₂_page {R : Document → Document → Prop} {documents others : List Document}
    (h : List.Forall₂ R documents others) : List.Forall₂ R (s.page documents) (s.page others) := by
  have hRest : List.Forall₂ R ((pageCount s.skip).elim documents documents.drop)
      ((pageCount s.skip).elim others others.drop) := by
    cases pageCount s.skip with
    | none => exact h
    | some n => exact List.forall₂_drop n h
  unfold page
  cases pageCount s.limit with
  | none => exact hRest
  | some n => exact List.forall₂_take n hRest

/-- Each cell of a row is its own operand: the rows of a statement without groups and sort keys show
the documents of the page one by one. -/
theorem cells_of_operands (hs : s.ShowsDocuments) {caseSensitive : Bool} {plan : Plan}
    {ctx : Context} (h : s.compile caseSensitive = .ok (plan, ctx)) {catalog : Catalog}
    {documents : List Document} (hRun : catalog.runPlan plan = .ok documents) :
    ∃ source working, s.planSource caseSensitive [] = .ok (source, .empty) ∧
      catalog.runPlan source.plan = .ok working ∧
      List.Forall₂ (fun d row => List.Forall₂ (OutputColumn.Shows (source.site caseSensitive) d)
        s.operands row) (s.page working) (s.materialize documents) := by
  obtain ⟨source, working, hSource, hWorking, hShaping⟩ := exists_shaping_of_run h hRun
  rw [hs.ofStatement_eq] at hSource hShaping
  obtain ⟨shaping, rfl⟩ := hShaping
  refine ⟨source, working, hSource, hWorking, ?_⟩
  obtain ⟨hRows, _, hKept⟩ := shaping.forall₂_sorted hs.helpers_eq
  rw [materialize, List.forall₂_map_right_iff, hKept hs.sorts]
  exact (forall₂_page hRows).imp fun _ _ hRow =>
    forall₂_toRow shaping.writes hs.outputNames hRow

/-- An order at a time: its owner under the name of the identity, constants that look like marks and
paths, a column that is not there, and the number of its items. -/
def oneOrder : Statement :=
  { Statement.empty with
    table := "Orders"
    aliasName := some "o"
    operands := [⟨.column ⟨some "o", "Owner", .int32⟩, some "_id"⟩,
      ⟨.constant (.int32 0), some "Zero"⟩, ⟨.constant (.boolean false), none⟩,
      ⟨.constant (.string "$Owner"), some "Text"⟩, ⟨.column ⟨some "o", "Gone", .string⟩, none⟩,
      ⟨.aggregate ⟨.count, none, some { Statement.empty with
        table := "Items"
        aliasName := some "i"
        condition := some (.binary .equal (.column ⟨some "i", "Order", .int32⟩)
          (.column ⟨some "o", "Id", .int32⟩)) }⟩, none⟩]
    skip := some 1
    limit := some 1 }

def ordersAndItems : Catalog :=
  [("Orders", [[("Id", .int32 1), ("Owner", .int32 7)], [("Id", .int32 2), ("Owner", .int32 8)]]),
    ("Items", [[("Order", .int32 1)], [("Order", .int32 2)]])]

theorem cells_of_oneOrder :
    ∃ plan ctx documents, oneOrder.compile false = .ok (plan, ctx) ∧
      ordersAndItems.runPlan plan = .ok documents ∧
      oneOrder.materialize documents =
        [[.int32 8, .int32 0, .boolean false, .string "$Owner", .null, .int32 1]] ∧
      ∃ source working, oneOrder.planSource false [] = .ok (source, .empty) ∧
        ordersAndItems.runPlan source.plan = .ok working ∧
        List.Forall₂ (fun d row => List.Forall₂ (OutputColumn.Shows (source.site false) d)
          oneOrder.operands row) (oneOrder.page working) (oneOrder.materialize documents) := by
  have hs : oneOrder.ShowsDocuments := by
    refine ⟨rfl, ?_, rfl, by decide⟩
    simp [oneOrder, Statement.empty, Expression.localAggregates]
  have hRuns : ((oneOrder.compile false).toOption.bind fun compiled =>
      (ordersAndItems.runPlan compiled.1).toOption) = some [[("_id", .int32 8), ("Zero", .int32 0),
        ("PrP2", .boolean false), ("Text", .string "$Owner"), ("PrP5", .int32 1)]] := by
    decide +kernel
  obtain ⟨⟨plan, ctx⟩, hPlan, hDocuments⟩ := Option.bind_eq_some_iff.mp hRuns
  have hCompiled := eq_ok_of_toOption hPlan
  have hRun := eq_ok_of_toOption hDocuments
  exact ⟨plan, ctx, _, hCompiled, hRun, rfl, cells_of_operands hs hCompiled hRun⟩

end Statement

end RelPipe
