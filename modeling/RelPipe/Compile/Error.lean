import RelPipe.Statement.Description
import RelPipe.Statement.Equality

/-!
Why a statement cannot be compiled. Some causes are malformed statements; the others are constructs
that have no compiled form.
-/

namespace RelPipe

set_option autoImplicit false

inductive CompileError where
  | argumentCount (function expected : String) (found : Nat)
  | unsupportedFunction (tag : String)
  | nonConstantPattern (pattern : Expression)
  | invalidDecimal (text : String)
  | aggregateOutsideGrouping (aggregate : Aggregate)
  | unplannedSubquery (aggregate : Aggregate)
  | missingTarget (kind : AggregateKind)
  | unsupportedAggregate (name : String)
deriving DecidableEq

namespace CompileError

/-- Whether the cause lies in an expression rather than in the shape of a statement. -/
def isOfExpression : CompileError → Bool
  | missingTarget _ | unsupportedAggregate _ => false
  | _ => true

def isUnsupported : CompileError → Bool
  | unsupportedFunction _ | nonConstantPattern _ | unsupportedAggregate _ => true
  | _ => false

def detail : CompileError → String
  | argumentCount function expected found =>
    function ++ " expects " ++ expected ++ " argument(s), found " ++ Text.Numeral.ofNat found
  | unsupportedFunction tag => "custom function '" ++ tag ++ "' is not supported"
  | nonConstantPattern pattern =>
    "pattern must be a string constant, found " ++ pattern.description
  | invalidDecimal text => "'" ++ text ++ "' is not a valid decimal constant"
  | aggregateOutsideGrouping aggregate =>
    "aggregate used outside of a grouping: " ++ aggregate.description
  | unplannedSubquery aggregate =>
    "subquery referenced before it was planned: " ++ aggregate.description
  | missingTarget kind => "aggregate " ++ kind.description ++ " requires a target expression"
  | unsupportedAggregate name => "aggregate '" ++ name ++ "' is not supported"

def message (e : CompileError) : String :=
  (if e.isOfExpression then "expression translation error: " else "statement translation error: ")
    ++ e.detail

end CompileError

end RelPipe
