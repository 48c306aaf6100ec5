/-!
Binary interchange formats. The magnitude of a number is the natural number that its bits without
the sign spell, so magnitudes are ordered as the numbers are. `nearest` rounds an exact quotient
once, to the nearest number of the format and to the even one of two equally near.
-/

namespace RelPipe.Number

set_option autoImplicit false

/-- The natural number nearest to `num / den`, the even one of two equally near. -/
def roundDiv (num den : Nat) : Nat :=
  let q := num / den
  let r := num % den
  if 2 * r < den then q
  else if den < 2 * r then q + 1
  else if q % 2 = 0 then q else q + 1

/-- A format with `fraction` explicit bits in the significand whose least positive number is
`2 ^ -lowest` and whose infinity has the magnitude `infinity`. -/
structure BinaryFormat where
  fraction : Nat
  lowest : Nat
  infinity : Nat

namespace BinaryFormat

def binary64 : BinaryFormat := ⟨52, 1074, 0x7ff0000000000000⟩

def binary32 : BinaryFormat := ⟨23, 149, 0x7f800000⟩

/-- The significand `s` and the scale `k` of a magnitude: it stands for `s * 2 ^ k` units of
`2 ^ -lowest`. -/
def split (f : BinaryFormat) (magnitude : Nat) : Nat × Nat :=
  if magnitude < Nat.pow 2 f.fraction then
    (magnitude, 0)
  else
    (magnitude % Nat.pow 2 f.fraction + Nat.pow 2 f.fraction, magnitude / Nat.pow 2 f.fraction - 1)

/-- The number of units of `2 ^ -lowest` that a magnitude stands for. -/
def units (f : BinaryFormat) (magnitude : Nat) : Nat :=
  (f.split magnitude).1 * Nat.pow 2 (f.split magnitude).2

/-- The exponent `e` with `2 ^ e ≤ num / den < 2 ^ (e + 1)`, for positive `num` and `den`. -/
def floorLog2 (num den : Nat) : Int :=
  let d : Int := (Nat.log2 num : Int) - Nat.log2 den
  let reached := if 0 ≤ d then den * Nat.pow 2 d.toNat ≤ num else den ≤ num * Nat.pow 2 (-d).toNat
  if reached then d else d - 1

def nearest (f : BinaryFormat) (num den : Nat) : Nat :=
  if num = 0 then
    0
  else
    let q : Int := max (floorLog2 num den - f.fraction) (-f.lowest)
    let scaled :=
      if 0 ≤ q then roundDiv num (den * Nat.pow 2 q.toNat)
      else roundDiv (num * Nat.pow 2 (-q).toNat) den
    min f.infinity ((q + f.lowest).toNat * Nat.pow 2 f.fraction + scaled)

end BinaryFormat

end RelPipe.Number
