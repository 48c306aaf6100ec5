import RelPipe.CaselessMap
import RelPipe.Statement.Basic

/-!
The columns that a nested statement takes from the statements around it: those with a qualifier
that no statement on the way to them declares. A column without a qualifier belongs to the
innermost statement.
-/

namespace RelPipe

set_option autoImplicit false

def JoinNode.declaredAlias (node : JoinNode) : String :=
  match node.aliasName with
  | some name => if name = "" then node.table else name
  | none => node.table

def declaredAliases (root : Option String) (joins : List JoinNode) : CaselessMap Unit :=
  .ofList ((root.getD "" :: (JoinNode.preorder joins).map JoinNode.declaredAlias).map (·, ()))

/-- The column itself, if it has a qualifier that is not declared. -/
def ColumnRef.outer (declared : List (CaselessMap Unit)) (ref : ColumnRef) : List ColumnRef :=
  match ref.qualifier with
  | some qualifier => if declared.any fun aliases => aliases.contains qualifier then [] else [ref]
  | none => []

mutual

def Expression.outerColumns (declared : List (CaselessMap Unit)) : Expression → List ColumnRef
  | .column ref => ref.outer declared
  | .property _ | .constant _ => []
  | .unary _ e => e.outerColumns declared
  | .binary _ l r => l.outerColumns declared ++ r.outerColumns declared
  | .between t l h => t.outerColumns declared ++ l.outerColumns declared ++ h.outerColumns declared
  | .member l cs => l.outerColumns declared ++ Expression.outerColumnsAll declared cs
  | .group _ es => Expression.outerColumnsAll declared es
  | .call _ es => Expression.outerColumnsAll declared es
  | .aggregate a => a.outerColumns declared
termination_by structural e => e

def Expression.outerColumnsAll (declared : List (CaselessMap Unit)) :
    List Expression → List ColumnRef
  | [] => []
  | e :: rest => e.outerColumns declared ++ Expression.outerColumnsAll declared rest
termination_by structural es => es

def Expression.outerColumnsOption (declared : List (CaselessMap Unit)) :
    Option Expression → List ColumnRef
  | none => []
  | some e => e.outerColumns declared
termination_by structural e => e

/-- The target of a subquery is read within the subquery's statement. -/
def Aggregate.outerColumns (declared : List (CaselessMap Unit)) : Aggregate → List ColumnRef
  | ⟨_, target, none⟩ => Expression.outerColumnsOption declared target
  | ⟨_, target, some ⟨_, root, operands, condition, joins, groupBy, having, sorts, _, _⟩⟩ =>
    let declared := declaredAliases root joins :: declared
    Expression.outerColumnsOption declared target
      ++ (OutputColumn.outerColumnsAll declared operands
        ++ Expression.outerColumnsOption declared condition
        ++ Expression.outerColumnsAll declared groupBy
        ++ Expression.outerColumnsOption declared having
        ++ SortKey.outerColumnsAll declared sorts)
      ++ JoinNode.outerColumnsAll declared joins
termination_by structural a => a

def OutputColumn.outerColumnsAll (declared : List (CaselessMap Unit)) :
    List OutputColumn → List ColumnRef
  | [] => []
  | ⟨e, _⟩ :: rest => e.outerColumns declared ++ OutputColumn.outerColumnsAll declared rest
termination_by structural os => os

def SortKey.outerColumnsAll (declared : List (CaselessMap Unit)) : List SortKey → List ColumnRef
  | [] => []
  | ⟨e, _⟩ :: rest => e.outerColumns declared ++ SortKey.outerColumnsAll declared rest
termination_by structural ks => ks

def JoinNode.outerColumnsAll (declared : List (CaselessMap Unit)) :
    List JoinNode → List ColumnRef
  | [] => []
  | ⟨_, _, _, condition, joins⟩ :: rest =>
    Expression.outerColumnsOption declared condition
      ++ JoinNode.outerColumnsAll declared joins
      ++ JoinNode.outerColumnsAll declared rest
termination_by structural ns => ns

end

end RelPipe
