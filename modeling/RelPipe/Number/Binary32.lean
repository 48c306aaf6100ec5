import RelPipe.Number.Binary64

/-!
Single precision numbers, which only arise by rounding a double.
-/

namespace RelPipe.Number

set_option autoImplicit false

structure Binary32 where
  bits : UInt32
deriving DecidableEq

namespace Binary32

abbrev format : BinaryFormat := .binary32

def ofMagnitude (negative : Bool) (magnitude : Nat) : Binary32 :=
  ⟨UInt32.ofNat (magnitude + if negative then 0x80000000 else 0)⟩

def isNegative (x : Binary32) : Bool := 0x80000000 ≤ x.bits.toNat

def magnitude (x : Binary32) : Nat := x.bits.toNat % 0x80000000

def isNaN (x : Binary32) : Bool := format.infinity < x.magnitude

def nan : Binary32 := ⟨0x7fc00000⟩

def ofBinary64 (x : Binary64) : Binary32 :=
  if x.isNaN then nan
  else if x.isInfinite then ofMagnitude x.isNegative format.infinity
  else ofMagnitude x.isNegative (format.nearest x.units.natAbs (Nat.pow 2 Binary64.format.lowest))

end Binary32

end RelPipe.Number
