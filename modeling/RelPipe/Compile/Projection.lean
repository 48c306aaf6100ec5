import RelPipe.Compile.Planning
import RelPipe.Statement.OutputName

/-!
The stages that shape result documents: a projection of the operands, a sort over the projected
fields and, if fields were projected only to sort by them, a projection that drops those again.
-/

namespace RelPipe

set_option autoImplicit false

/-- An operand as a projected value. Bare numbers and booleans would say whether to keep a field.
-/
def Operand.projected : Operand → Value
  | .constant (.string s) => Operand.render (.constant (.string s))
  | .constant value => .single "$literal" value
  | operand => operand.render

def Expression.sortsCaselessly : Expression → Bool
  | .column ref => ref.columnType.isTextual
  | .property _ => true
  | _ => false

/-- The projected operands: the fields and, for each operand, the name of its field. -/
structure Projection where
  stage : Document
  fields : List (Signature × String)
  names : CaselessMap Unit

namespace Projection

def empty : Projection := ⟨[("_id", .int32 0)], [], .empty⟩

def add (p : Projection) (site : Site) (o : OutputColumn) (name : String) :
    Except CompileError Projection := do
  let operand ← site.compile o.expression
  .ok
    { stage := Fields.insert p.stage name operand.projected
      fields := p.fields ++ [(o.expression.signature, name)]
      names := p.names.insert name () }

def addAll (p : Projection) (site : Site) :
    List (OutputColumn × String) → Except CompileError Projection
  | [] => .ok p
  | (o, name) :: rest => do
    let p ← p.add site o name
    addAll p site rest

inductive SortTarget where
  /-- A field that is projected anyway. -/
  | field (name : String)
  /-- A field of its own, in lower case if `caseless`. -/
  | helper (caseless : Bool)
  /-- Nothing, since the value is gone after grouping. -/
  | nothing

/-- The projected field that has the name of a property. -/
def namedField? (p : Projection) : Expression → Option String
  | .property name =>
    p.names.keys.find? fun field => CaselessMap.sameName field (ColumnName.normalize name)
  | _ => none

/-- A sort key without regard to case never sorts by a projected operand, since that keeps its
letter case; it may sort by a field that it names. -/
def sortTarget (p : Projection) (g : Grouping) (e : Expression) : SortTarget :=
  let caseless := e.sortsCaselessly
  match if caseless then none else p.fields.lookup e.signature with
  | some name => .field name
  | none =>
    match p.namedField? e with
    | some name => .field name
    | none => if g.isEmpty || g.covers e then .helper caseless else .nothing

/-- The value that a helper field sorts by. Existence sorts by its count. -/
def sortValue (site : Site) (e : Expression) : Except CompileError Value :=
  match site.grouping.aggregate? e.signature with
  | some a => .ok (.string ("$" ++ a.name))
  | none => (site.compile e).map Operand.projected

/-- A sort in the making: the projection with the helpers so far, the sort fields, and whether
there are helpers. -/
structure Sorting where
  stage : Document
  order : Document
  hasHelpers : Bool

def direction : SortDirection → Value
  | .ascending => .int32 1
  | .descending => .int32 (-1)

def addSorts (p : Projection) (site : Site) (s : Sorting) (index : Nat) :
    List SortKey → Except CompileError Sorting
  | [] => .ok s
  | key :: rest => do
    let s ←
      match p.sortTarget site.grouping key.expression with
      | .field name => .ok { s with order := Fields.insert s.order name (direction key.direction) }
      | .helper caseless => do
        let value ← sortValue site key.expression
        let name := "_sort" ++ Text.Numeral.ofNat index
        .ok
          { stage := Fields.insert s.stage name
              (if caseless then .single "$toLower" value else value)
            order := Fields.insert s.order name (direction key.direction)
            hasHelpers := true }
      | .nothing => .ok s
    addSorts p site s (index + 1) rest

def final (p : Projection) : Document :=
  Fields.insertAll [("_id", .int32 0)] (p.names.keys.map (·, .int32 1))

end Projection

/-- Counts beyond the largest 64-bit integer are capped. -/
def pagingValue (n : UInt64) : Value := .int64 (Int64.ofInt (min n.toNat 0x7fffffffffffffff))

def Plan.addPaging (p : Plan) (kind : StageKind) : Option UInt64 → Plan
  | none => p
  | some n => if n = 0 then p else p.add kind (pagingValue n)

def Planning.project (p : Planning) (site : Site) (s : Statement) (names : List String) :
    Except CompileError Planning := do
  let projection ← Projection.empty.addAll site (s.operands.zip names)
  let sorting ← projection.addSorts site ⟨projection.stage, [], false⟩ 0 s.sorts
  let p := p.add .project sorting.stage
  let p := p.add .sort sorting.order
  let p := if sorting.hasHelpers then p.add .project projection.final else p
  .ok { p with plan := (p.plan.addPaging .skip s.skip).addPaging .limit s.limit }

def Statement.compile (caseSensitive : Bool) (s : Statement) :
    Except CompileError (Plan × Context) := do
  let (p, grouping) ← s.planSource caseSensitive []
  let names := OutputColumn.fieldNames s.operands
  let p ← p.project ⟨p.scope, grouping, caseSensitive⟩ s names
  .ok (p.plan, ⟨p.plan.collection, p.scope, grouping, names, p.subqueries⟩)

end RelPipe
