import RelPipe.Number.Numeral
import RelPipe.Text.Basic
import RelPipe.Text.Hex

/-!
Decimal floating point numbers with 34 digits. The exponent is kept as written, so `1.0` and `1.00`
are two numbers with the same value. Reading never rounds: digits beyond the format's range are
only dropped when they are zeros. A value is its 128 bits, since several encodings stand for one
number.
-/

namespace RelPipe.Number

set_option autoImplicit false

/-- What an encoding stands for. -/
inductive DecimalNumber where
  | nan (negative signalling : Bool)
  | infinity (negative : Bool)
  | finite (negative : Bool) (coefficient : Nat) (exponent : Int)
deriving DecidableEq

structure Decimal128 where
  bits : BitVec 128
deriving DecidableEq

namespace Decimal128

def maxDigits : Nat := 34

def minExponent : Int := -6176

def maxExponent : Int := 6111

/-- The binary integer encoding: sign, biased exponent and coefficient. -/
def encoding : DecimalNumber → Nat
  | .nan negative signalling =>
    (if negative then Nat.pow 2 127 else 0) + 31 * Nat.pow 2 122
      + if signalling then Nat.pow 2 121 else 0
  | .infinity negative => (if negative then Nat.pow 2 127 else 0) + 30 * Nat.pow 2 122
  | .finite negative coefficient exponent =>
    (if negative then Nat.pow 2 127 else 0) + (exponent - minExponent).toNat * Nat.pow 2 113
      + coefficient

def ofNumber (d : DecimalNumber) : Decimal128 := ⟨BitVec.ofNat 128 (encoding d)⟩

/-- The number that the bits from `low` on stand for, `count` of them. -/
def field (d : Decimal128) (low count : Nat) : Nat := d.bits.toNat / Nat.pow 2 low % Nat.pow 2 count

/-- The number of an encoding. Coefficients of more than 34 digits, and those in the longer form
that begins with two set bits, are zero. -/
def number (d : Decimal128) : DecimalNumber :=
  let negative := d.field 127 1 = 1
  if d.field 122 5 = 31 then .nan negative (d.field 121 1 = 1)
  else if d.field 123 4 = 15 then .infinity negative
  else if d.field 125 2 = 3 then .finite negative 0 (d.field 111 14 + minExponent)
  else
    let coefficient := d.field 0 113
    .finite negative (if coefficient < Nat.pow 10 maxDigits then coefficient else 0)
      (d.field 113 14 + minExponent)

def bytes (d : Decimal128) : List UInt8 := Text.Hex.littleEndian 16 d.bits.toNat

def ofBytes? (bytes : List UInt8) : Option Decimal128 :=
  if bytes.length = 16 then
    some ⟨BitVec.ofNat 128 (bytes.foldr (fun b n => b.toNat + 256 * n) 0)⟩
  else
    none

def shorten? (count : Nat) (digits : List Char) : Option (List Char) :=
  if (digits.drop count).all (· == '0') then some (digits.take count) else none

/-- Brings digits to at most 34 by dropping zeros at the end. -/
def fitDigits? (digits : List Char) (exponent : Int) : Option (List Char × Int) :=
  if digits.length ≤ maxDigits then
    some (digits, exponent)
  else
    (shorten? maxDigits digits).map (·, exponent + (digits.length - maxDigits : Nat))

/-- Brings the exponent into range: a zero takes the nearest one, other numbers trade zeros at
their end for the exponent. -/
def fitExponent? (digits : List Char) (exponent : Int) : Option (List Char × Int) :=
  if exponent < minExponent then
    if digits = ['0'] then
      some (digits, minExponent)
    else
      let excess := (minExponent - exponent).toNat
      if digits.length < excess then none
      else (shorten? (digits.length - excess) digits).map (·, minExponent)
  else if maxExponent < exponent then
    if digits = ['0'] then
      some (digits, maxExponent)
    else
      let excess := (exponent - maxExponent).toNat
      if maxDigits < digits.length + excess then none
      else some (digits ++ List.replicate excess '0', maxExponent)
  else
    some (digits, exponent)

/-- Reads digits, which one more plus sign may precede. -/
def coefficient? : List Char → Option Nat
  | '+' :: digits => Text.Numeral.natural? digits
  | digits => Text.Numeral.natural? digits

/-- The exponents that a numeral may have before it is brought into range. -/
def exponentIn? (n : Int) : Option Int := if -0x8000 ≤ n && n < 0x8000 then some n else none

def finite? (negative : Bool) (body : List Char) : Option DecimalNumber := do
  let (mantissa, exponent) ←
    match Text.cutAt? 'e' body with
    | none => some (body, 0)
    | some (mantissa, e) => (Text.Numeral.integer? e).map (mantissa, ·)
  let exponent ← exponentIn? exponent
  let (digits, exponent) :=
    match Text.cutAt? '.' mantissa with
    | none => (mantissa, exponent)
    | some (whole, places) => (whole ++ places, exponent - places.length)
  let exponent ← exponentIn? exponent
  let significant := digits.dropWhile (· == '0')
  let (digits, exponent) ← fitDigits? (if significant.isEmpty then ['0'] else significant) exponent
  let (digits, exponent) ← fitExponent? digits exponent
  let coefficient ← coefficient? digits
  return .finite negative coefficient exponent

/-- Reads a decimal numeral or one of the names of infinity and NaN, in any letter case. A numeral
without digits is zero. -/
def numberOfText? (cs : List Char) : Option DecimalNumber :=
  let (negative, body) := sign cs
  let body := body.map Char.toLower
  if body = "nan".toList then some (.nan negative false)
  else if body = "snan".toList then some (.nan negative true)
  else if body = "inf".toList || body = "infinity".toList then some (.infinity negative)
  else finite? negative body

def ofText? (cs : List Char) : Option Decimal128 := (numberOfText? cs).map ofNumber

/-- Positional notation for exponents up to zero and numbers from `10 ^ -6` on, with an exponent
otherwise. All digits of the coefficient are kept. -/
def text (d : Decimal128) : String :=
  match d.number with
  | .nan _ _ => "NaN"
  | .infinity negative => if negative then "-Infinity" else "Infinity"
  | .finite negative coefficient exponent =>
    let digits : Digits := ⟨coefficient, exponent⟩
    let leading := digits.leading
    let body :=
      if exponent ≤ 0 ∧ -6 ≤ leading then
        digits.positional
      else
        let plus := if leading < 0 then [] else ['+']
        let tail := 'E' :: plus ++ (Text.Numeral.ofInt leading).toList
        match Text.Numeral.digits coefficient with
        | [] => tail
        | [c] => c :: tail
        | c :: cs => c :: '.' :: cs ++ tail
    String.ofList (if negative then '-' :: body else body)

def toBinary64 (d : Decimal128) : Binary64 :=
  match d.number with
  | .nan _ _ => .nan
  | .infinity negative => .infinity negative
  | .finite negative coefficient exponent => .ofDecimal negative coefficient exponent

end Decimal128

end RelPipe.Number
