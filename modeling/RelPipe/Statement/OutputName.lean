import RelPipe.CaselessMap
import RelPipe.Statement.Basic
import RelPipe.Statement.ColumnName
import RelPipe.Text.Numeral

/-!
The field names of output columns. An explicit alias always wins. A plain column is named after its
qualifier and its name, and an index tells it from a column of the same name before it; everything
else is named by its index.
-/

namespace RelPipe.OutputColumn

set_option autoImplicit false

def indexName (index : Nat) : String := "PrP" ++ Text.Numeral.ofNat index

/-- The alias that a column is given, unless it is empty. -/
def explicitAlias? (o : OutputColumn) : Option String := o.aliasName.filter (· ≠ "")

/-- The name that a column without an explicit alias takes, before it is told from others. -/
def derivedName (index : Nat) (ref : ColumnRef) : String :=
  let name := ColumnName.normalize ref.name
  let qualified :=
    match ref.qualifier.filter (· ≠ "") with
    | some qualifier => qualifier ++ "_" ++ name
    | none => name
  if qualified = "" then indexName index else qualified

def fieldName (index : Nat) (o : OutputColumn) (used : CaselessMap Unit) : String :=
  ColumnName.sanitize <|
    match o.explicitAlias?, o.expression with
    | some name, _ => name
    | none, .column ref =>
      if ref.name = "" then
        indexName index
      else
        let name := derivedName index ref
        if used.contains name then name ++ "_" ++ Text.Numeral.ofNat index else name
    | none, _ => indexName index

def fieldNamesFrom (index : Nat) (used : CaselessMap Unit) : List OutputColumn → List String
  | [] => []
  | o :: rest =>
    let name := o.fieldName index used
    name :: fieldNamesFrom (index + 1) (used.insert name ()) rest

def fieldNames (operands : List OutputColumn) : List String := fieldNamesFrom 0 .empty operands

theorem length_fieldNamesFrom (index : Nat) (used : CaselessMap Unit) (os : List OutputColumn) :
    (fieldNamesFrom index used os).length = os.length := by
  induction os generalizing index used with
  | nil => rfl
  | cons o rest ih => simp [fieldNamesFrom, ih]

end RelPipe.OutputColumn
