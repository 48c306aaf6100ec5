import RelPipe.Pipeline.Error

/-!
Arithmetic on values. Integers stay integers, narrow ones as long as the result fits; with any
other operand the result is a double. A null operand makes the result null.
-/

namespace RelPipe.Pipeline

set_option autoImplicit false

open Number

inductive ArithmeticOp where
  | add | multiply | subtract | divide | modulo
deriving DecidableEq

namespace ArithmeticOp

def checked? (n : Int) : Option Int :=
  if -0x8000000000000000 ≤ n && n < 0x8000000000000000 then some n else none

/-- Combines integers from left to right, unless a result on the way is too large. -/
def foldChecked? (f : Int → Int → Int) : Int → List Int → Option Int
  | acc, [] => some acc
  | acc, n :: rest => (checked? (f acc n)).bind fun acc => foldChecked? f acc rest

def onIntegers : ArithmeticOp → List Int → Except Fault Int
  | add, ns => (foldChecked? (· + ·) 0 ns).elim (.error .overflow) .ok
  | multiply, ns => (foldChecked? (· * ·) 1 ns).elim (.error .overflow) .ok
  | subtract, [m, n] => (checked? (m - n)).elim (.error .overflow) .ok
  | modulo, [m, n] =>
    if n = 0 then .error .divisionByZero
    else if m = -0x8000000000000000 && n = -1 then .error .overflow
    else .ok (m.tmod n)
  | _, _ => .error (.argumentCount 2)

def onDoubles : ArithmeticOp → List Binary64 → Except Fault Binary64
  | add, xs => .ok (Binary64.sum xs)
  | multiply, xs => .ok (Binary64.product xs)
  | subtract, [x, y] => .ok (x.sub y)
  | divide, [x, y] => if y.isZero then .error .divisionByZero else .ok (x.div y)
  | modulo, [x, y] => .ok (x.rem y)
  | _, _ => .error (.argumentCount 2)

def narrowed (narrow : Bool) (n : Int) : Value :=
  if narrow && -0x80000000 ≤ n && n < 0x80000000 then .int32 (.ofInt n) else .int64 (.ofInt n)

def apply (op : ArithmeticOp) (operands : List Value) : Except Fault Value :=
  if operands.any Value.isAbsent then .ok .null
  else
    match operands.find? fun v => !v.isNumeric with
    | some v => .error (.notNumeric v)
    | none =>
      if operands.all Value.isIntegral && op ≠ divide then
        (op.onIntegers ((operands.filterMap Value.toInt64?).map Int64.toInt)).map
          (narrowed (operands.all Value.isInt32))
      else
        (op.onDoubles (operands.filterMap Value.toBinary64?)).map .double

end ArithmeticOp

inductive RoundingOp where
  | abs | floor | ceil | trunc
deriving DecidableEq

namespace RoundingOp

def onDouble : RoundingOp → Binary64 → Binary64
  | abs => Binary64.abs
  | floor => Binary64.floor
  | ceil => Binary64.ceil
  | trunc => Binary64.trunc

/-- Integers are rounded already; the absolute value of the least one is itself. What is no number
becomes null. -/
def apply (op : RoundingOp) : Value → Value
  | .int32 n => .int32 (if op = abs && n < 0 then -n else n)
  | .int64 n => .int64 (if op = abs && n < 0 then -n else n)
  | v => v.toBinary64?.elim .null fun x => .double (op.onDouble x)

end RoundingOp

end RelPipe.Pipeline
