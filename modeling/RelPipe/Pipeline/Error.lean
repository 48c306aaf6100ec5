import RelPipe.Document.Equality
import RelPipe.Document.Printer
import RelPipe.Text.Numeral

/-!
Why a pipeline cannot be run.
-/

namespace RelPipe.Pipeline

set_option autoImplicit false

/-- What is wrong with the argument of an operator or a stage. -/
inductive Fault where
  | fieldNotText (field : String)
  | fieldNotArray (field : String)
  | fieldNotDocument (field : String)
  | stageNotDocument
  | bodyNotDocument
  | negativeNumber
  | noFieldPath
  | noGroupKey
  | badAccumulator (field : String)
  | clauseNotDocument
  | noClauses
  | notArray
  | notPattern
  | argumentCount (expected : Nat)
  | candidatesNotArray
  | notConcatenable
  | notText
  | missingBranch
  | branchCount
  | notDocument
  | missingInput
  | inputNotText
  | regexNotText
  | negativeIndex
  | notNumeric (operand : Value)
  | divisionByZero
  | overflow
deriving DecidableEq

def Fault.text : Fault → String
  | fieldNotText field => "'" ++ field ++ "' must be a string"
  | fieldNotArray field => "'" ++ field ++ "' must be an array"
  | fieldNotDocument field => "'" ++ field ++ "' must be a document"
  | stageNotDocument => "pipeline stages must be documents"
  | bodyNotDocument => "stage body must be a document"
  | negativeNumber => "expected a non-negative number"
  | noFieldPath => "'path' must be a field path"
  | noGroupKey => "missing '_id'"
  | badAccumulator field => "bad accumulator for " ++ field
  | clauseNotDocument => "clauses must be documents"
  | noClauses => "expected an array of clauses"
  | notArray => "expected an array"
  | notPattern => "expected a pattern"
  | argumentCount expected => "expected " ++ Text.Numeral.ofNat expected ++ " argument(s)"
  | candidatesNotArray => "second argument must be an array"
  | notConcatenable => "only strings concatenate"
  | notText => "argument must be a string"
  | missingBranch => "needs if, then and else"
  | branchCount => "needs three arguments"
  | notDocument => "argument must be a document"
  | missingInput => "missing input"
  | inputNotText => "input must be a string"
  | regexNotText => "regex must be a string"
  | negativeIndex => "expected a non-negative index"
  | notNumeric operand => "non-numeric operand " ++ operand.text
  | divisionByZero => "division by zero"
  | overflow => "integer overflow"

inductive Error where
  | malformedStage (stage : Document)
  | unsupportedStage (name : String)
  | unsupportedOperator (name : String)
  | invalidArgument (operator : String) (fault : Fault)
  | invalidRegex
deriving DecidableEq

def Error.message : Error → String
  | malformedStage stage =>
    "a stage must be a document with exactly one operator, found " ++ stage.text
  | unsupportedStage name => "stage " ++ name ++ " is not supported"
  | unsupportedOperator name => "operator " ++ name ++ " is not supported"
  | invalidArgument operator fault => "invalid argument to " ++ operator ++ ": " ++ fault.text
  | invalidRegex => "invalid regular expression"

abbrev Result (α : Type) := Except Error α

end RelPipe.Pipeline
