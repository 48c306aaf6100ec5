import RelPipe.Rows.ColumnType
import RelPipe.Rows.Convert
import RelPipe.Statement.OutputName

/-!
From result documents to rows shaped like the output columns of a statement.
-/

namespace RelPipe

set_option autoImplicit false

/-- Where a column's values stand in result documents and what they are converted to. -/
structure ColumnDescriptor where
  field : String
  columnType : ColumnType
deriving DecidableEq

def Statement.columns (s : Statement) : List ColumnDescriptor :=
  (OutputColumn.fieldNames s.operands).zipWith
    (fun field o => ⟨field, o.expression.columnType⟩) s.operands

/-- The value under a field name, either as a name of its own or as a dotted path. -/
def Document.field? (d : Document) (name : String) : Option Value :=
  (Fields.get? d name).orElse fun _ => d.path? name

def ColumnDescriptor.cell (c : ColumnDescriptor) (d : Document) : Cell :=
  match d.field? c.field with
  | some value => value.convert c.columnType
  | none => .null

def Document.toRow (columns : List ColumnDescriptor) (d : Document) : Row :=
  columns.map fun c => c.cell d

def Statement.materialize (s : Statement) (documents : List Document) : List Row :=
  documents.map (Document.toRow s.columns)

end RelPipe
