import RelPipe.Document.Printer
import RelPipe.Statement.Names

/-!
Descriptions of expressions and statements for messages: every part with its kind and the names of
its fields.
-/

namespace RelPipe

set_option autoImplicit false

def describedAs (kind content : String) : String := kind ++ "(" ++ content ++ ")"

def describedWith (kind : String) (fields : List (String × String)) : String :=
  kind ++ " " ++ braced (fields.map fun f => f.1 ++ ": " ++ f.2)

def describedList (items : List String) : String := "[" ++ commaSeparated items ++ "]"

def describedOption (content : Option String) : String :=
  match content with
  | none => "None"
  | some s => describedAs "Some" s

def describedText (s : Option String) : String := describedOption (s.map Text.Quoted.string)

def describedCount (n : Option UInt64) : String :=
  describedOption (n.map fun n => Text.Numeral.ofNat n.toNat)

def ColumnRef.description (c : ColumnRef) : String :=
  describedWith "ColumnRef" [("alias", describedText c.qualifier),
    ("name", Text.Quoted.string c.name), ("column_type", c.columnType.name)]

def Constant.description : Constant → String
  | .null => "Null"
  | .boolean b => describedAs "Boolean" (if b then "true" else "false")
  | .int32 n => describedAs "Int32" (Text.Numeral.ofInt n.toInt)
  | .int64 n => describedAs "Int64" (Text.Numeral.ofInt n.toInt)
  | .double x => describedAs "Double" x.literal
  | .decimal s => describedAs "Decimal" (Text.Quoted.string s)
  | .string s => describedAs "String" (Text.Quoted.string s)
  | .dateTime millis => describedAs "DateTime" (Value.dateDescription millis)
  | .guid id => describedAs "Guid" id.text
  | .bytes content => describedAs "Bytes" (Value.bytesDescription content)

def Function.description : Function → String
  | .standard f => f.name
  | .custom tag => describedAs "Custom" (Text.Quoted.string tag)

def AggregateKind.description : AggregateKind → String
  | .custom name => describedAs "Custom" (Text.Quoted.string name)
  | kind => kind.name

mutual

def Expression.description : Expression → String
  | .column c => describedAs "Column" c.description
  | .property name => describedAs "Property" (Text.Quoted.string name)
  | .constant c => describedAs "Constant" c.description
  | .unary op operand =>
    describedAs "Unary" (describedWith "Unary" [("op", op.name), ("operand", operand.description)])
  | .binary op left right =>
    describedAs "Binary" (describedWith "Binary" [("op", op.name), ("left", left.description),
      ("right", right.description)])
  | .between test low high =>
    describedAs "Between" (describedWith "Between" [("test", test.description),
      ("begin", low.description), ("end", high.description)])
  | .member left candidates =>
    describedAs "In" (describedWith "In" [("left", left.description),
      ("candidates", describedList (Expression.descriptions candidates))])
  | .group op operands =>
    describedAs "Group" (describedWith "Group" [("op", op.name),
      ("operands", describedList (Expression.descriptions operands))])
  | .call function arguments =>
    describedAs "Function" (describedWith "FunctionCall" [("function", function.description),
      ("arguments", describedList (Expression.descriptions arguments))])
  | .aggregate ref => describedAs "Aggregate" ref.description
termination_by structural e => e

def Expression.descriptions : List Expression → List String
  | [] => []
  | e :: rest => e.description :: Expression.descriptions rest
termination_by structural es => es

def Expression.optionDescription : Option Expression → String
  | none => describedOption none
  | some e => describedOption (some e.description)
termination_by structural e => e

def Aggregate.description : Aggregate → String
  | ⟨kind, target, statement⟩ =>
    describedWith "AggregateRef" [("kind", kind.description),
      ("target", Expression.optionDescription target),
      ("statement", Statement.optionDescription statement)]
termination_by structural a => a

def OutputColumn.descriptions : List OutputColumn → List String
  | [] => []
  | ⟨e, name⟩ :: rest =>
    describedWith "OutputColumn" [("expression", e.description), ("alias", describedText name)]
      :: OutputColumn.descriptions rest
termination_by structural os => os

def SortKey.descriptions : List SortKey → List String
  | [] => []
  | ⟨e, direction⟩ :: rest =>
    describedWith "SortKey" [("expression", e.description), ("direction", direction.name)]
      :: SortKey.descriptions rest
termination_by structural ks => ks

def JoinNode.descriptions : List JoinNode → List String
  | [] => []
  | ⟨table, name, kind, condition, joins⟩ :: rest =>
    describedWith "JoinNode" [("table", Text.Quoted.string table), ("alias", describedText name),
      ("kind", kind.name), ("condition", Expression.optionDescription condition),
      ("joins", describedList (JoinNode.descriptions joins))]
      :: JoinNode.descriptions rest
termination_by structural ns => ns

def Statement.description : Statement → String
  | ⟨table, name, operands, condition, joins, groupBy, having, sorts, skip, limit⟩ =>
    describedWith "Statement" [("table", Text.Quoted.string table), ("alias", describedText name),
      ("operands", describedList (OutputColumn.descriptions operands)),
      ("condition", Expression.optionDescription condition),
      ("joins", describedList (JoinNode.descriptions joins)),
      ("group_by", describedList (Expression.descriptions groupBy)),
      ("having", Expression.optionDescription having),
      ("sorts", describedList (SortKey.descriptions sorts)),
      ("skip", describedCount skip), ("limit", describedCount limit)]
termination_by structural s => s

def Statement.optionDescription : Option Statement → String
  | none => describedOption none
  | some s => describedOption (some s.description)
termination_by structural s => s

end

end RelPipe
