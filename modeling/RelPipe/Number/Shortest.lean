import RelPipe.Number.BinaryFormat
import RelPipe.Text.Numeral

/-!
The fewest decimal digits that read back as a given number. The search goes through the decimal
grids from coarse to fine and takes the first grid that has a point among the reals that round to
the number; of two such points the nearer one, and the upper one of two equally near.
-/

namespace RelPipe.Number

set_option autoImplicit false

/-- The number `digits * 10 ^ exponent`. -/
structure Digits where
  digits : Nat
  exponent : Int

namespace Digits

/-- The same number without trailing zeros among its digits, `fuel` bounding how many there are. -/
def strip : (fuel : Nat) → Digits → Digits
  | 0, d => d
  | fuel + 1, d =>
    if d.digits ≠ 0 ∧ d.digits % 10 = 0 then strip fuel ⟨d.digits / 10, d.exponent + 1⟩ else d

/-- The exponent of the first digit. -/
def leading (d : Digits) : Int := d.exponent + (Text.Numeral.digits d.digits).length - 1

def positional (d : Digits) : List Char :=
  let ds := Text.Numeral.digits d.digits
  if 0 ≤ d.exponent then
    ds ++ List.replicate d.exponent.toNat '0'
  else
    let places := (-d.exponent).toNat
    if places < ds.length then
      ds.take (ds.length - places) ++ '.' :: ds.drop (ds.length - places)
    else
      '0' :: '.' :: List.replicate (places - ds.length) '0' ++ ds

def scientific (d : Digits) : List Char :=
  let exponent := 'e' :: (Text.Numeral.ofInt d.leading).toList
  match Text.Numeral.digits d.digits with
  | [] => exponent
  | [c] => c :: exponent
  | c :: cs => c :: '.' :: cs ++ exponent

end Digits

namespace Shortest

/-- The exponent `e` with `10 ^ e ≤ num / den < 10 ^ (e + 1)`, for positive `num` and `den`. -/
def floorLog10 (num den : Nat) : Int :=
  if den ≤ num then
    (Text.Numeral.digits (num / den)).length - 1
  else
    let k := (Text.Numeral.digits (den / num)).length - 1
    if num * Nat.pow 10 k = den then -k else -k - 1

/-- The reals that round to a number, as the quotients of `low`, `value` and `high` by `den`. -/
structure Interval where
  low : Nat
  value : Nat
  high : Nat
  den : Nat
  closed : Bool

/-- The interval of the reals that round to a magnitude. The gap below a power of two is half the
gap above it, and the ends belong to the interval when the significand is even. -/
def interval (f : BinaryFormat) (magnitude : Nat) : Interval :=
  let (s, k) := f.split magnitude
  let gap := Nat.pow 2 k
  let below := if s = Nat.pow 2 f.fraction ∧ 0 < k then gap else 2 * gap
  { low := 4 * s * gap - below
    value := 4 * s * gap
    high := 4 * s * gap + 2 * gap
    den := 4 * Nat.pow 2 f.lowest
    closed := s % 2 = 0 }

/-- `num / den` in units of `10 ^ e`, as a numerator and a denominator. -/
def onGrid (e : Int) (num den : Nat) : Nat × Nat :=
  if 0 ≤ e then (num, den * Nat.pow 10 e.toNat) else (num * Nat.pow 10 (-e).toNat, den)

namespace Interval

def contains (i : Interval) (digits : Nat) (e : Int) : Bool :=
  let (low, den) := onGrid e i.low i.den
  let (high, _) := onGrid e i.high i.den
  if i.closed then low ≤ digits * den && digits * den ≤ high
  else low < digits * den && digits * den < high

/-- The point of the grid `10 ^ e` that is nearest to the value among those in the interval. -/
def point? (i : Interval) (e : Int) : Option Nat :=
  let (num, den) := onGrid e i.value i.den
  let down := num / den
  let up := down + 1
  match i.contains down e, i.contains up e with
  | true, true => some (if 2 * (num % den) < den then down else up)
  | true, false => some down
  | false, true => some up
  | false, false => none

def search (i : Interval) : (fuel : Nat) → (e : Int) → Digits
  | 0, e => ⟨(onGrid e i.value i.den).1 / (onGrid e i.value i.den).2, e⟩
  | fuel + 1, e =>
    match i.point? e with
    | some digits => ⟨digits, e⟩
    | none => search i fuel (e - 1)

end Interval

/-- The fewest digits that read back as the positive, finite `magnitude`. -/
def ofMagnitude (f : BinaryFormat) (magnitude : Nat) : Digits :=
  let i := interval f magnitude
  (i.search 17 (floorLog10 i.value i.den)).strip 1

end Shortest

end RelPipe.Number
