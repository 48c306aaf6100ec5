import RelPipe.Document.Order
import RelPipe.Number.Numeral
import RelPipe.Pipeline.Arithmetic
import RelPipe.Regex.Reader
import RelPipe.Text.Case

/-!
The operators of expressions. Most take the values of their arguments; a few decide for themselves
which arguments to evaluate.
-/

namespace RelPipe

set_option autoImplicit false

open Number

def Value.plainText : Value → String
  | .string s => s
  | .null | .undefined => ""
  | v => v.text

def Value.index? (v : Value) : Option Nat :=
  v.toInt64?.bind fun n => if n.toInt < 0 then none else some n.toInt.toNat

def Value.readInteger? : Value → Option Int64
  | .string s => Text.Numeral.int64? (Text.trimBlank s)
  | .boolean b => some (if b then 1 else 0)
  | v => v.toInt64?

def Value.readDouble? : Value → Option Binary64
  | .string s => Binary64.ofText? (Text.trimBlank s)
  | .boolean b => some (if b then .one else .zero false)
  | v => v.toBinary64?

namespace Pipeline

inductive Comparison where
  | eq | ne | gt | gte | lt | lte
deriving DecidableEq

namespace Comparison

def holds : Comparison → Ordering → Bool
  | eq, o => o == .eq
  | ne, o => o != .eq
  | gt, o => o == .gt
  | gte, o => o != .lt
  | lt, o => o == .lt
  | lte, o => o != .gt

end Comparison

inductive TrimSide where
  | left | right | both
deriving DecidableEq

namespace TrimSide

def operator : TrimSide → String
  | left => "$ltrim"
  | right => "$rtrim"
  | both => "$trim"

def apply (side : TrimSide) (drop : Char → Bool) (cs : List Char) : List Char :=
  match side with
  | left => cs.dropWhile drop
  | right => Text.trimEnd drop cs
  | both => Text.trimBoth drop cs

def defaultCharacters : List Char := [' ', '\t', '\n', '\r']

end TrimSide

inductive ValueOperator where
  | not
  | test (c : Comparison)
  | compare
  | member
  | arithmetic (op : ArithmeticOp)
  | rounding (op : RoundingOp)
  | lower
  | upper
  | text
  | concat
  | charCount
  | slice
  | ifNull
  | toInt
  | toLong
  | toDouble
deriving DecidableEq

inductive Operator where
  | literal
  | all
  | any
  | choice
  | trim (side : TrimSide)
  | search
  | onValues (op : ValueOperator)
deriving DecidableEq

namespace Operator

def ofName? : String → Option Operator
  | "$literal" => some literal
  | "$and" => some all
  | "$or" => some any
  | "$cond" => some choice
  | "$trim" => some (trim .both)
  | "$ltrim" => some (trim .left)
  | "$rtrim" => some (trim .right)
  | "$regexMatch" => some search
  | "$not" => some (onValues .not)
  | "$eq" => some (onValues (.test .eq))
  | "$ne" => some (onValues (.test .ne))
  | "$gt" => some (onValues (.test .gt))
  | "$gte" => some (onValues (.test .gte))
  | "$lt" => some (onValues (.test .lt))
  | "$lte" => some (onValues (.test .lte))
  | "$cmp" => some (onValues .compare)
  | "$in" => some (onValues .member)
  | "$add" => some (onValues (.arithmetic .add))
  | "$multiply" => some (onValues (.arithmetic .multiply))
  | "$subtract" => some (onValues (.arithmetic .subtract))
  | "$divide" => some (onValues (.arithmetic .divide))
  | "$mod" => some (onValues (.arithmetic .modulo))
  | "$abs" => some (onValues (.rounding .abs))
  | "$floor" => some (onValues (.rounding .floor))
  | "$ceil" => some (onValues (.rounding .ceil))
  | "$trunc" => some (onValues (.rounding .trunc))
  | "$toLower" => some (onValues .lower)
  | "$toUpper" => some (onValues .upper)
  | "$toString" => some (onValues .text)
  | "$concat" => some (onValues .concat)
  | "$strLenCP" => some (onValues .charCount)
  | "$substrCP" => some (onValues .slice)
  | "$ifNull" => some (onValues .ifNull)
  | "$toInt" => some (onValues .toInt)
  | "$toLong" => some (onValues .toLong)
  | "$toDouble" => some (onValues .toDouble)
  | _ => none

end Operator

namespace ValueOperator

/-- How many arguments the operator takes, if their number is fixed. -/
def arity? : ValueOperator → Option Nat
  | concat | ifNull | arithmetic .add | arithmetic .multiply => none
  | test _ | compare | member | arithmetic _ => some 2
  | slice => some 3
  | _ => some 1

def orderNumber : Ordering → Int32
  | .lt => -1
  | .eq => 0
  | .gt => 1

/-- The texts one after the other; null if one of them is null. -/
def concatenated : List Value → Except Fault Value
  | [] => .ok (.string "")
  | .string s :: rest => do
    match ← concatenated rest with
    | .string t => .ok (.string (s ++ t))
    | v => .ok v
  | .null :: _ | .undefined :: _ => .ok .null
  | _ :: _ => .error .notConcatenable

/-- The first value that is not null; the last one if all others are. -/
def firstPresent : List Value → Value
  | [] => .null
  | [last] => last
  | v :: rest => if v.isAbsent then firstPresent rest else v

def index (v : Value) : Except Fault Nat := v.index?.elim (.error .negativeIndex) .ok

def onArguments : ValueOperator → List Value → Except Fault Value
  | not, [v] => .ok (.boolean !v.isTruthy)
  | test c, [a, b] => .ok (.boolean (c.holds (a.compare b)))
  | compare, [a, b] => .ok (.int32 (orderNumber (a.compare b)))
  | member, [v, .array candidates] => .ok (.boolean (candidates.any fun c => c.equivalent v))
  | member, [_, _] => .error .candidatesNotArray
  | arithmetic op, vs => op.apply vs
  | rounding op, [v] => .ok (op.apply v)
  | lower, [v] => .ok (.string (Text.lower v.plainText))
  | upper, [v] => .ok (.string (Text.upper v.plainText))
  | text, [v] => .ok (if v.isAbsent then .null else .string v.plainText)
  | concat, vs => concatenated vs
  | charCount, [.string s] => .ok (.int32 (.ofInt s.toList.length))
  | charCount, [_] => .error .notText
  | slice, [v, start, length] => do
    let start ← index start
    let length ← index length
    .ok (.string (String.ofList ((v.plainText.toList.drop start).take length)))
  | ifNull, vs => .ok (firstPresent vs)
  | toInt, [v] => .ok (v.readInteger?.elim .null fun n => .int32 n.toInt32)
  | toLong, [v] => .ok (v.readInteger?.elim .null .int64)
  | toDouble, [v] => .ok (v.readDouble?.elim .null .double)
  | op, _ => .error (.argumentCount (op.arity?.getD 0))

def apply (op : ValueOperator) (vs : List Value) : Except Fault Value :=
  match op.arity? with
  | some n => if vs.length = n then op.onArguments vs else .error (.argumentCount n)
  | none => op.onArguments vs

end ValueOperator

def regexOptions (letters : String) : Regex.Options :=
  let has (c : Char) : Bool := letters.toList.contains c
  { caseless := has 'i', multiline := has 'm', dotAll := has 's' }

def occurs (options : Regex.Options) (pattern text : String) : Result Bool :=
  match Regex.ofPattern? options pattern.toList with
  | some r => .ok (r.occursIn text.toList)
  | none => .error .invalidRegex

end Pipeline

end RelPipe
