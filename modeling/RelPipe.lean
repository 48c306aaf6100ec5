import RelPipe.Calendar.Date
import RelPipe.Calendar.LooseText
import RelPipe.Calendar.Moment
import RelPipe.Calendar.Rfc3339
import RelPipe.Calendar.Scan
import RelPipe.Calendar.Stamp
import RelPipe.CaselessMap
import RelPipe.Compile.Arity
import RelPipe.Compile.Call
import RelPipe.Compile.Error
import RelPipe.Compile.Expression
import RelPipe.Compile.Filter
import RelPipe.Compile.GroupStage
import RelPipe.Compile.Grouping
import RelPipe.Compile.Operand
import RelPipe.Compile.OuterColumn
import RelPipe.Compile.Pattern
import RelPipe.Compile.Planning
import RelPipe.Compile.Predicate
import RelPipe.Compile.Projection
import RelPipe.Compile.Scope
import RelPipe.Document.Equality
import RelPipe.Document.Extended
import RelPipe.Document.Fields
import RelPipe.Document.Order
import RelPipe.Document.Printer
import RelPipe.Document.Value
import RelPipe.Json.Basic
import RelPipe.Json.Decode
import RelPipe.Json.Printer
import RelPipe.Json.Reader
import RelPipe.Json.Token
import RelPipe.Main
import RelPipe.Number.Binary32
import RelPipe.Number.Binary64
import RelPipe.Number.BinaryFormat
import RelPipe.Number.Decimal128
import RelPipe.Number.Numeral
import RelPipe.Number.Shortest
import RelPipe.Pipeline.Arithmetic
import RelPipe.Pipeline.Catalog
import RelPipe.Pipeline.Error
import RelPipe.Pipeline.Expression
import RelPipe.Pipeline.Operator
import RelPipe.Pipeline.Query
import RelPipe.Pipeline.Stage
import RelPipe.Plan
import RelPipe.Regex.Basic
import RelPipe.Regex.BracketClass
import RelPipe.Regex.Escape
import RelPipe.Regex.Footprint
import RelPipe.Regex.GroupName
import RelPipe.Regex.Options
import RelPipe.Regex.Reader
import RelPipe.Regex.Search
import RelPipe.Report
import RelPipe.Rows.Cell
import RelPipe.Rows.ColumnType
import RelPipe.Rows.Convert
import RelPipe.Rows.Materialize
import RelPipe.Rows.Printer
import RelPipe.Rows.TimeSpan
import RelPipe.Statement.Basic
import RelPipe.Statement.ColumnName
import RelPipe.Statement.Decode
import RelPipe.Statement.Description
import RelPipe.Statement.Encode
import RelPipe.Statement.Equality
import RelPipe.Statement.Function
import RelPipe.Statement.Names
import RelPipe.Statement.OutputName
import RelPipe.Statement.Signature
import RelPipe.Text.Base64
import RelPipe.Text.Basic
import RelPipe.Text.Blank
import RelPipe.Text.Case
import RelPipe.Text.CaseContext
import RelPipe.Text.CaseTable
import RelPipe.Text.CharSet
import RelPipe.Text.Hex
import RelPipe.Text.Numeral
import RelPipe.Text.Quoted
import RelPipe.Text.Ranges
import RelPipe.Text.Visible
import RelPipe.Unicode.AgeTable
import RelPipe.Unicode.Binary
import RelPipe.Unicode.BinaryTable
import RelPipe.Unicode.Break
import RelPipe.Unicode.BreakTable
import RelPipe.Unicode.Category
import RelPipe.Unicode.CategoryTable
import RelPipe.Unicode.Folding
import RelPipe.Unicode.Property
import RelPipe.Unicode.ScriptTable
import RelPipe.Unicode.Table
import RelPipe.Uuid
import RelPipe.Proofs.Document.Order
import RelPipe.Proofs.Pipeline.Truth
import RelPipe.Proofs.Filter.Native
import RelPipe.Proofs.Compile.Clause
import RelPipe.Proofs.Filter.Agreement
import RelPipe.Proofs.Filter.NullLogic
import RelPipe.Proofs.Scoping.Correlations
import RelPipe.Proofs.Scoping.OuterColumns
import RelPipe.Proofs.Scoping.Planning
import RelPipe.Proofs.Scoping.Levels
import RelPipe.Proofs.Scoping.JoinConditions
import RelPipe.Proofs.Document.Fields
import RelPipe.Proofs.Filter.AbsentOperands
import RelPipe.Proofs.Pipeline.References
import RelPipe.Proofs.Pipeline.FreeReferences
import RelPipe.Proofs.Pipeline.Running
import RelPipe.Proofs.Joins.NestedLoop
import RelPipe.Proofs.Joins.Simulation
import RelPipe.Proofs.Subqueries.Reduction
import RelPipe.Proofs.Subqueries.Attachment
import RelPipe.Proofs.Planning.Steps
import RelPipe.Proofs.Planning.Projecting
import RelPipe.Proofs.Compile.References
import RelPipe.Proofs.Compile.Calls
import RelPipe.Proofs.Compile.Reads
import RelPipe.Proofs.Compile.Shape
import RelPipe.Proofs.Grouping.Readable
import RelPipe.Proofs.Grouping.Coverage
import RelPipe.Proofs.Grouping.Survival
import RelPipe.Proofs.Compile.Lacking
import RelPipe.Proofs.Planning.Nesting
import RelPipe.Proofs.Grouping.Entries
import RelPipe.Proofs.Planning.Completeness
import RelPipe.Proofs.Statement.PathNames
import RelPipe.Proofs.Planning.Binding
import RelPipe.Proofs.Pipeline.Groups
import RelPipe.Proofs.Grouping.ColumnGroups
import RelPipe.Proofs.Grouping.Rows
import RelPipe.Proofs.Text.Lowering
import RelPipe.Proofs.Projection.FieldNames
import RelPipe.Proofs.Grouping.KeyNames
import RelPipe.Proofs.Projection.Stages
import RelPipe.Proofs.Projection.Cells
import RelPipe.Proofs.Projection.Reordering
import RelPipe.Proofs.Pipeline.Sorting
import RelPipe.Proofs.Projection.SortKeys
import RelPipe.Proofs.Planning.Layout
import RelPipe.Proofs.Pipeline.WellFormed
import RelPipe.Proofs.Pipeline.StageFailures
import RelPipe.Proofs.Compile.WellFormed
import RelPipe.Proofs.Planning.Failures
import RelPipe.Proofs.Compile.Spelling
import RelPipe.Proofs.Compile.AlikeCalls
import RelPipe.Proofs.Compile.Signatures
import RelPipe.Proofs.Number.Rounding
import RelPipe.Proofs.Document.Preorder
import RelPipe.Proofs.Compile.Templates
import RelPipe.Proofs.Statement.Requalify
import RelPipe.Proofs.Grouping.Requalified
import RelPipe.Proofs.Compile.Variation
import RelPipe.Proofs.Compile.Varied
import RelPipe.Proofs.Planning.Varied
import RelPipe.Proofs.Projection.Varied
import RelPipe.Proofs.Planning.QualifierCase
import RelPipe.Proofs.Planning.PatternCase
import RelPipe.Proofs.Text.Numeral
import RelPipe.Proofs.Uuid
import RelPipe.Proofs.Calendar.Date
import RelPipe.Proofs.Calendar.Rfc3339
import RelPipe.Proofs.Json.Tokens
import RelPipe.Proofs.Json.RoundTrip
import RelPipe.Proofs.Json.Decode
import RelPipe.Proofs.Statement.Encoding
import RelPipe.Proofs.Statement.RoundTrip
import RelPipe.Proofs.Regex.Search
import RelPipe.Proofs.Regex.Reading
import RelPipe.Proofs.Regex.Footprint
import RelPipe.Proofs.Regex.Like
import RelPipe.Proofs.Compile.PatternCalls
import RelPipe.Proofs.Grouping.Forming
import RelPipe.Proofs.Regex.Literal
import RelPipe.Proofs.Compile.TextSearch
import RelPipe.Proofs.Pipeline.Integers
import RelPipe.Proofs.Pipeline.Texts
import RelPipe.Proofs.Text.Trimming
import RelPipe.Proofs.Compile.TextParts
import RelPipe.Proofs.Number.Integers
import RelPipe.Proofs.Number.Shortest
import RelPipe.Proofs.Number.Decimal128
import RelPipe.Proofs.Rows.Integers
import RelPipe.Proofs.Rows.TimeSpan
import RelPipe.Proofs.Compile.Branches
import RelPipe.Proofs.CaselessMap.History
import RelPipe.Proofs.Projection.Constants
import RelPipe.Proofs.Text.Lowered
import RelPipe.Proofs.Statement.ColumnNames
import RelPipe.Proofs.Statement.NormalForm
import RelPipe.Proofs.Planning.Aliases
