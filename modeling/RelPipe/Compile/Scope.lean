import RelPipe.CaselessMap
import RelPipe.Document.Value
import RelPipe.Statement.Signature
import RelPipe.Text.Numeral

/-!
Where names lead. An alias table says under which path of the working document each alias of a
statement lies. Correlations are the variables that a nested pipeline is given for columns of the
statements around it. A scope joins the two with the fields that hold the results of planned
subqueries.
-/

namespace RelPipe

set_option autoImplicit false

/-- The paths of aliases in the working document. The root lies under the empty path. -/
structure AliasTable where
  root : String
  paths : CaselessMap String

namespace AliasTable

def rooted (root : String) : AliasTable := ⟨root, CaselessMap.empty.insert root ""⟩

def register (t : AliasTable) (name path : String) : AliasTable :=
  { t with paths := t.paths.insert name path }

def contains (t : AliasTable) (name : String) : Bool := t.paths.contains name

/-- The path of a column. Columns of an unknown alias are taken from the root. -/
def fieldPath (t : AliasTable) (qualifier : Option String) (column : String) : String :=
  let column := ColumnName.normalize column
  match t.paths.get? (qualifier.getD t.root) with
  | some path => if path = "" then "$" ++ column else "$" ++ path ++ "." ++ column
  | none => "$" ++ column

end AliasTable

/-- A column of an enclosing statement, up to letter case. -/
structure CorrelationKey where
  aliasName : String
  column : String
deriving DecidableEq

def CorrelationKey.of (aliasName column : String) : CorrelationKey :=
  ⟨Text.lower aliasName, foldName column⟩

structure Correlation where
  key : CorrelationKey
  name : String
  value : Value

/-- The variables of one nested pipeline in the order of their binding. -/
abbrev Correlations := List Correlation

namespace Correlations

def nameOf? (cs : Correlations) (key : CorrelationKey) : Option String :=
  (cs.find? fun c => c.key = key).map Correlation.name

/-- Binds a column to a value, unless it is bound already. -/
def bind (cs : Correlations) (aliasName column : String) (value : Value) : Correlations :=
  let key := CorrelationKey.of aliasName column
  if (cs.nameOf? key).isSome then cs
  else cs ++ [⟨key, "outer_" ++ Text.Numeral.ofNat cs.length, value⟩]

def toDocument (cs : Correlations) : Document := cs.map fun c => (c.name, c.value)

end Correlations

structure Scope where
  aliases : AliasTable
  correlations : Correlations
  subqueries : List (Signature × String)

namespace Scope

/-- The scope of a statement or a joined collection before anything in it is planned. -/
def rooted (root : String) (correlations : Correlations) : Scope :=
  ⟨.rooted root, correlations, []⟩

/-- The path or variable that a column is read from. Variables win over paths. -/
def columnPath (s : Scope) (ref : ColumnRef) : String :=
  match s.correlations.nameOf? (.of (ref.qualifier.getD s.aliases.root) ref.name) with
  | some name => "$$" ++ name
  | none => s.aliases.fieldPath ref.qualifier ref.name

def propertyPath (name : String) : String := "$" ++ ColumnName.normalize name

def subqueryField? (s : Scope) (signature : Signature) : Option String :=
  s.subqueries.lookup signature

def registerAlias (s : Scope) (name path : String) : Scope :=
  { s with aliases := s.aliases.register name path }

def registerSubquery (s : Scope) (signature : Signature) (field : String) : Scope :=
  { s with subqueries := s.subqueries ++ [(signature, field)] }

end Scope

end RelPipe
