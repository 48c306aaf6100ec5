import RelPipe.Number.Shortest

/-!
Double precision numbers, held as their bits. Every finite double is a whole number of units of
`2 ^ -1074`, so arithmetic is exact arithmetic on integers followed by one rounding.
-/

namespace RelPipe.Number

set_option autoImplicit false

structure Binary64 where
  bits : UInt64
deriving DecidableEq

namespace Binary64

abbrev format : BinaryFormat := .binary64

def ofMagnitude (negative : Bool) (magnitude : Nat) : Binary64 :=
  ⟨UInt64.ofNat (magnitude + if negative then 0x8000000000000000 else 0)⟩

def isNegative (x : Binary64) : Bool := 0x8000000000000000 ≤ x.bits.toNat

def magnitude (x : Binary64) : Nat := x.bits.toNat % 0x8000000000000000

def nan : Binary64 := ⟨0x7ff8000000000000⟩

def infinity (negative : Bool) : Binary64 := ofMagnitude negative format.infinity

def zero (negative : Bool) : Binary64 := ofMagnitude negative 0

def isNaN (x : Binary64) : Bool := format.infinity < x.magnitude

def isInfinite (x : Binary64) : Bool := x.magnitude = format.infinity

def isZero (x : Binary64) : Bool := x.magnitude = 0

/-- The exact value of a finite number in units of `2 ^ -1074`. -/
def units (x : Binary64) : Int :=
  if x.isNegative then -(format.units x.magnitude) else format.units x.magnitude

def ofQuotient (negative : Bool) (num den : Nat) : Binary64 :=
  ofMagnitude negative (format.nearest num den)

def ofInt (n : Int) : Binary64 := ofQuotient (n < 0) n.natAbs 1

def one : Binary64 := ofInt 1

/-- The position of a number that is not a NaN in the numeric order. The two zeros share theirs. -/
def key (x : Binary64) : Int := if x.isNegative then -(x.magnitude : Int) else x.magnitude

/-- The numeric order. NaNs are equal to each other and below every other number. -/
def compare (x y : Binary64) : Ordering :=
  match x.isNaN, y.isNaN with
  | true, true => .eq
  | true, false => .lt
  | false, true => .gt
  | false, false => Ord.compare x.key y.key

def abs (x : Binary64) : Binary64 := ofMagnitude false x.magnitude

def neg (x : Binary64) : Binary64 := ofMagnitude (!x.isNegative) x.magnitude

/-- A sum that is exactly zero is negative only if both terms are. -/
def add (x y : Binary64) : Binary64 :=
  if x.isNaN || y.isNaN then nan
  else if x.isInfinite then
    if y.isInfinite && x.isNegative != y.isNegative then nan else x
  else if y.isInfinite then y
  else
    let sum := x.units + y.units
    if sum = 0 then zero (x.isNegative && y.isNegative)
    else ofQuotient (sum < 0) sum.natAbs (Nat.pow 2 format.lowest)

def sub (x y : Binary64) : Binary64 := add x y.neg

def mul (x y : Binary64) : Binary64 :=
  let negative := x.isNegative != y.isNegative
  if x.isNaN || y.isNaN then nan
  else if x.isInfinite || y.isInfinite then
    if x.isZero || y.isZero then nan else infinity negative
  else
    ofQuotient negative (x.units.natAbs * y.units.natAbs) (Nat.pow 2 (2 * format.lowest))

def div (x y : Binary64) : Binary64 :=
  let negative := x.isNegative != y.isNegative
  if x.isNaN || y.isNaN then nan
  else if x.isInfinite then
    if y.isInfinite then nan else infinity negative
  else if y.isInfinite then zero negative
  else if y.isZero then
    if x.isZero then nan else infinity negative
  else
    ofQuotient negative x.units.natAbs y.units.natAbs

/-- The remainder of the division rounded toward zero, with the sign of the dividend. -/
def rem (x y : Binary64) : Binary64 :=
  if x.isNaN || y.isNaN || x.isInfinite || y.isZero then nan
  else if y.isInfinite then x
  else ofQuotient x.isNegative (x.units.natAbs % y.units.natAbs) (Nat.pow 2 format.lowest)

def sum (xs : List Binary64) : Binary64 := xs.foldl add (zero true)

def product (xs : List Binary64) : Binary64 := xs.foldl mul one

/-- Applies a rounding of exact quotients to integers. A zero keeps the sign of the number. -/
def roundToInt (round : (num den : Int) → Int) (x : Binary64) : Binary64 :=
  if x.isNaN || x.isInfinite then x
  else ofQuotient x.isNegative (round x.units (Nat.pow 2 format.lowest)).natAbs 1

def floor (x : Binary64) : Binary64 := x.roundToInt Int.fdiv

def ceil (x : Binary64) : Binary64 := x.roundToInt fun num den => -(Int.fdiv (-num) den)

def trunc (x : Binary64) : Binary64 := x.roundToInt Int.tdiv

/-- The integer part, held between `low` and `high`; zero for a NaN. -/
def toIntIn (low high : Int) (x : Binary64) : Int :=
  if x.isNaN then 0
  else if x.isInfinite then if x.isNegative then low else high
  else max low (min high (x.units.tdiv (Nat.pow 2 format.lowest)))

def toInt64 (x : Binary64) : Int64 :=
  Int64.ofInt (x.toIntIn (-0x8000000000000000) 0x7fffffffffffffff)

def toInt32 (x : Binary64) : Int32 := Int32.ofInt (x.toIntIn (-0x80000000) 0x7fffffff)

def toUInt64 (x : Binary64) : UInt64 := UInt64.ofNat (x.toIntIn 0 0xffffffffffffffff).toNat

/-- The number nearest to `digits * 10 ^ exponent`. Exponents far outside the range are decided by
the position of the first digit, before any power is computed. -/
def ofDecimal (negative : Bool) (digits : Nat) (exponent : Int) : Binary64 :=
  if digits = 0 then zero negative
  else
    let leading := exponent + (Text.Numeral.digits digits).length
    if leading < -400 then zero negative
    else if 400 < leading then infinity negative
    else if 0 ≤ exponent then ofQuotient negative (digits * Nat.pow 10 exponent.toNat) 1
    else ofQuotient negative digits (Nat.pow 10 (-exponent).toNat)

end Binary64

end RelPipe.Number
