import Mathlib.Algebra.Group.Int.Defs
import Mathlib.Algebra.Group.Nat.Defs
import RelPipe.Proofs.Number.Rounding

/-!
Integers as doubles. The double nearest to an integer holds the integer rounded to 53 bits, so the
integers up to 2 ^ 53 are held exactly, and larger ones if they are multiples of their last bit that
counts.
-/

namespace RelPipe.Number

set_option autoImplicit false

/-- An integer rounded to its first 53 bits. -/
def rounded (n : Nat) : Nat := roundDiv n (2 ^ (n.log2 - 52)) * 2 ^ (n.log2 - 52)

theorem rounded_eq_iff (n : Nat) : rounded n = n ↔ 2 ^ (n.log2 - 52) ∣ n := by
  unfold rounded
  constructor
  · intro h
    exact ⟨_, (Nat.mul_comm _ _ ▸ h).symm⟩
  · rintro ⟨k, hk⟩
    have hRound := roundDiv_mul k (Nat.two_pow_pos (n.log2 - 52))
    rw [Nat.mul_comm, ← hk] at hRound
    rw [hRound, Nat.mul_comm, ← hk]

theorem rounded_of_le {n : Nat} (h : n ≤ 2 ^ 53) : rounded n = n := by
  rw [rounded_eq_iff]
  rcases Nat.lt_or_eq_of_le h with hLess | rfl
  · have hLog : n.log2 - 52 = 0 := by
      by_cases hZero : n = 0
      · rw [hZero]
        rfl
      · have := (Nat.log2_lt hZero).mpr hLess
        omega
    rw [hLog]
    exact Nat.one_dvd n
  · decide +kernel

/-- The powers of two around a number stay around the rounded one. -/
theorem rounded_mem {n : Nat} (h : 2 ^ 53 < n) :
    2 ^ n.log2 ≤ rounded n ∧ rounded n ≤ 2 ^ (n.log2 + 1) := by
  have hn : n ≠ 0 := by omega
  have hWide : 53 ≤ n.log2 := (Nat.le_log2 hn).mpr (by omega)
  obtain ⟨k, hk⟩ : ∃ k, n.log2 - 52 = k := ⟨_, rfl⟩
  have hLog : n.log2 = 52 + k := by omega
  have hUnit : 0 < 2 ^ k := Nat.two_pow_pos k
  have hLow := roundDiv_mono (d := 2 ^ k) (Nat.log2_self_le hn)
  have hHigh := roundDiv_mono (d := 2 ^ k) (Nat.le_of_lt (Nat.lt_log2_self (n := n)))
  rw [hLog, Nat.pow_add, roundDiv_mul _ hUnit] at hLow
  rw [hLog, Nat.add_right_comm, Nat.pow_add, roundDiv_mul _ hUnit] at hHigh
  rw [rounded, hk, hLog, Nat.add_right_comm, Nat.pow_add, Nat.pow_add]
  exact ⟨Nat.mul_le_mul_right _ hLow, Nat.mul_le_mul_right _ hHigh⟩

theorem rounded_le {n e : Nat} (h : n < 2 ^ e) : rounded n ≤ 2 ^ e := by
  by_cases hSmall : n ≤ 2 ^ 53
  · rw [rounded_of_le hSmall]
    exact Nat.le_of_lt h
  · have hLog := (Nat.log2_lt (by omega)).mpr h
    exact Nat.le_trans (rounded_mem (Nat.not_le.mp hSmall)).2
      (Nat.pow_le_pow_right (by decide) hLog)

theorem le_rounded {n e : Nat} (h : 2 ^ e ≤ n) : 2 ^ e ≤ rounded n := by
  by_cases hSmall : n ≤ 2 ^ 53
  · rwa [rounded_of_le hSmall]
  · have hLog := (Nat.le_log2 (by omega)).mpr h
    exact Nat.le_trans (Nat.pow_le_pow_right (by decide) hLog)
      (rounded_mem (Nat.not_le.mp hSmall)).1

namespace BinaryFormat

def unit (f : BinaryFormat) : Nat := Nat.pow 2 f.lowest

theorem unit_eq (f : BinaryFormat) : Nat.pow 2 f.lowest = f.unit := rfl

theorem unit_pos (f : BinaryFormat) : 0 < f.unit := Nat.two_pow_pos _

theorem two_pow_eq_unit (f : BinaryFormat) {e : Nat} (h : e = f.lowest) : 2 ^ e = f.unit :=
  congrArg (Nat.pow 2) h

/-- The significand of an integer is its number of units rounded to 53 bits. -/
theorem significand_eq (n : Nat) :
    significand n = roundDiv (n * binary64.unit) (2 ^ (n.log2 + 1022)) := by
  have hLowest : binary64.lowest = 1074 := rfl
  unfold significand
  split
  · rename_i hSmall
    have hScale : 52 - n.log2 + (n.log2 + 1022) = binary64.lowest := by omega
    rw [← two_pow_eq_unit binary64 hScale, Nat.pow_add, ← Nat.mul_assoc,
      roundDiv_mul _ (Nat.two_pow_pos _)]
  · rename_i hLarge
    have hScale : n.log2 + 1022 = n.log2 - 52 + binary64.lowest := by omega
    rw [hScale, Nat.pow_add, two_pow_eq_unit binary64 rfl, roundDiv_mul_mul _ _ binary64.unit_pos]

theorem significand_mul (n : Nat) :
    significand n * 2 ^ (n.log2 + 1022) = rounded n * binary64.unit := by
  have hLowest : binary64.lowest = 1074 := rfl
  unfold significand rounded
  split
  · rename_i hSmall
    have hNone : n.log2 - 52 = 0 := by omega
    have hOne : roundDiv n 1 = n := by simpa using roundDiv_mul n Nat.one_pos
    rw [hNone, Nat.pow_zero, hOne, Nat.mul_one, Nat.mul_assoc, ← Nat.pow_add,
      two_pow_eq_unit binary64 (by omega)]
  · rename_i hLarge
    have hScale : n.log2 + 1022 = n.log2 - 52 + binary64.lowest := by omega
    rw [hScale, Nat.pow_add, two_pow_eq_unit binary64 rfl, Nat.mul_assoc]

theorem rounded_ne_zero {n : Nat} (h : n ≠ 0) : rounded n ≠ 0 := by
  intro hZero
  have hProduct := significand_mul n
  rw [hZero, Nat.zero_mul, Nat.mul_eq_zero] at hProduct
  have hSignificand := (significand_mem h).1
  have hPower := Nat.two_pow_pos (n.log2 + 1022)
  omega

theorem split_of_lt {q s : Nat} (hLow : 2 ^ 52 ≤ s) (hHigh : s < 2 ^ 53) :
    binary64.split (q * 2 ^ 52 + s) = (s, q) := by
  have hUnit : Nat.pow 2 binary64.fraction = 2 ^ 52 := rfl
  unfold split
  rw [hUnit, if_neg (by omega)]
  exact Prod.ext (by dsimp only; omega) (by dsimp only; omega)

/-- The significand that has one bit more belongs to the next scale. -/
theorem split_top (q : Nat) : binary64.split (q * 2 ^ 52 + 2 ^ 53) = (2 ^ 52, q + 1) := by
  have h := split_of_lt (q := q + 1) (Nat.le_refl (2 ^ 52)) (by decide)
  rwa [show (q + 1) * 2 ^ 52 + 2 ^ 52 = q * 2 ^ 52 + 2 ^ 53 by omega] at h

theorem units_add {q s : Nat} (hLow : 2 ^ 52 ≤ s) (hHigh : s ≤ 2 ^ 53) :
    binary64.units (q * 2 ^ 52 + s) = s * 2 ^ q := by
  unfold units
  rcases Nat.lt_or_eq_of_le hHigh with hLess | rfl
  · rw [split_of_lt hLow hLess]
    rfl
  · rw [split_top]
    change 2 ^ 52 * 2 ^ (q + 1) = 2 ^ 53 * 2 ^ q
    rw [← Nat.pow_add, ← Nat.pow_add]
    congr 1
    omega

/-- Integers of 64 bits, and some more, are far below infinity. -/
theorem nearest_integer {n : Nat} (h : n ≠ 0) (hBits : n < 2 ^ 66) :
    binary64.nearest n 1 = (n.log2 + 1022) * 2 ^ 52 + significand n := by
  have hLog := (Nat.log2_lt h).mpr hBits
  have hSignificand := (significand_mem h).2
  have hInfinity : binary64.infinity = 0x7ff0000000000000 := rfl
  rw [nearest_one h, hInfinity]
  omega

theorem units_nearest {n : Nat} (hBits : n < 2 ^ 64) :
    binary64.units (binary64.nearest n 1) = rounded n * binary64.unit := by
  by_cases h : n = 0
  · have hNothing : binary64.units (binary64.nearest 0 1) = 0 := by decide
    rw [h, hNothing, rounded_of_le (Nat.zero_le _), Nat.zero_mul]
  · obtain ⟨hLow, hHigh⟩ := significand_mem h
    rw [nearest_integer h (by omega), units_add hLow hHigh, significand_mul]

/-- Twice the distance from which on the numbers below one are rounded to its neighbour. The
neighbour below a power of two is at half the distance of the one above. -/
def below (s k : Nat) : Nat := if s = 2 ^ 52 ∧ 0 < k then 2 ^ k else 2 * 2 ^ k

def RoundsTo (s k x : Nat) : Prop :=
  4 * (s * 2 ^ k) ≤ 4 * x + below s k ∧ 4 * x ≤ 4 * (s * 2 ^ k) + 2 * 2 ^ k ∧
    (s % 2 = 1 → 4 * (s * 2 ^ k) ≠ 4 * x + below s k ∧ 4 * x ≠ 4 * (s * 2 ^ k) + 2 * 2 ^ k)

theorem units_bounds {m : Nat} (hm : m ≠ 0) :
    2 ^ 52 * 2 ^ (m.log2 + 1022) ≤ m * binary64.unit ∧
      m * binary64.unit < 2 ^ 53 * 2 ^ (m.log2 + 1022) := by
  have hLowest : binary64.lowest = 1074 := rfl
  have hScale (e : Nat) (h : e = m.log2 + binary64.lowest) :
      2 ^ e = 2 ^ m.log2 * binary64.unit := by
    rw [h, Nat.pow_add, two_pow_eq_unit binary64 rfl]
  have hLow : 2 ^ 52 * 2 ^ (m.log2 + 1022) = 2 ^ m.log2 * binary64.unit := by
    rw [← Nat.pow_add, hScale _ (by omega)]
  have hNext : 2 ^ (m.log2 + 1) * binary64.unit = 2 * (2 ^ m.log2 * binary64.unit) := by
    rw [Nat.pow_succ', Nat.mul_assoc]
  have hUp := Nat.mul_lt_mul_of_pos_right (Nat.lt_log2_self (n := m)) binary64.unit_pos
  rw [hNext, ← hLow] at hUp
  refine ⟨?_, by omega⟩
  rw [hLow]
  exact Nat.mul_le_mul_right _ (Nat.log2_self_le hm)

theorem nearest_eq_iff {s k m : Nat} (hLow : 2 ^ 52 ≤ s) (hHigh : s < 2 ^ 53) (hm : m ≠ 0)
    (hBits : m < 2 ^ 66) :
    binary64.nearest m 1 = k * 2 ^ 52 + s ↔ RoundsTo s k (m * binary64.unit) := by
  obtain ⟨hLeast, hMost⟩ := significand_mem hm
  have hUnits := units_bounds hm
  rw [nearest_integer hm hBits]
  rw [significand_eq] at hLeast hMost ⊢
  generalize m.log2 + 1022 = q at *
  generalize m * binary64.unit = x at *
  have hUnit : 0 < 2 ^ q := Nat.two_pow_pos q
  have hBottom := Nat.mul_le_mul_right (2 ^ k) hLow
  have hTop := Nat.mul_le_mul_right (2 ^ k) hHigh
  have hInner (h : s ≠ 2 ^ 52) : 2 ^ 52 * 2 ^ k + 2 ^ k ≤ s * 2 ^ k := by
    rw [← Nat.succ_mul]
    exact Nat.mul_le_mul_right _ (by omega)
  rw [Nat.succ_mul] at hTop
  unfold RoundsTo below
  rcases Nat.lt_trichotomy q k with hLess | rfl | hMore
  · rcases Nat.lt_or_eq_of_le hLess with hFar | rfl
    · have hScale : 4 * 2 ^ q ≤ 2 ^ k := by
        rw [show 4 * 2 ^ q = 2 ^ (q + 2) by rw [Nat.pow_add, Nat.mul_comm]]
        exact Nat.pow_le_pow_right (by decide) hFar
      split_ifs <;> omega
    · -- The number is below a power of two, and is rounded to it or to a number below it.
      rw [Nat.pow_succ] at *
      have hRound := roundDiv_eq_iff (n := x) (q := 2 ^ 53) hUnit
      split_ifs with hPower
      · obtain ⟨rfl, -⟩ := hPower
        omega
      · omega
  · rw [Nat.add_left_cancel_iff, roundDiv_eq_iff hUnit]
    split_ifs with hPower
    · obtain ⟨rfl, -⟩ := hPower
      omega
    · omega
  · have hScale : 2 * 2 ^ k ≤ 2 ^ q := by
      rw [← Nat.pow_succ']
      exact Nat.pow_le_pow_right (by decide) hMore
    split_ifs <;> omega

end BinaryFormat

namespace Binary64

theorem magnitude_ofInt_lt {n : Int} (h : n.natAbs < 2 ^ 64) :
    (ofInt n).magnitude < format.infinity := by
  have hInfinity : format.infinity = 0x7ff0000000000000 := rfl
  rw [(magnitude_ofInt n).1, hInfinity]
  by_cases hZero : n.natAbs = 0
  · rw [hZero]
    decide
  · have hLog := (Nat.log2_lt hZero).mpr h
    have hSignificand := (BinaryFormat.significand_mem hZero).2
    rw [BinaryFormat.nearest_integer hZero (by omega)]
    omega

theorem units_ofInt {n : Int} (h : n.natAbs < 2 ^ 64) :
    (ofInt n).units =
      (if n < 0 then -(rounded n.natAbs : Int) else rounded n.natAbs) * format.unit := by
  obtain ⟨hMagnitude, hSign⟩ := magnitude_ofInt n
  rw [units, hMagnitude, hSign, BinaryFormat.units_nearest h, Int.natCast_mul]
  simp only [decide_eq_true_eq]
  split
  · rw [Int.neg_mul]
  · rfl

theorem toNat_toUInt64_ofInt {n : Int} (hLow : 0 ≤ n) (hHigh : n < 2 ^ 63) :
    (ofInt n).toUInt64.toNat = rounded n.natAbs := by
  have hBits : n.natAbs < 2 ^ 64 := by omega
  have hRounded : rounded n.natAbs ≤ 2 ^ 63 := rounded_le (by omega)
  have hFinite : (ofInt n).isInfinite = false :=
    decide_eq_false (Nat.ne_of_lt (magnitude_ofInt_lt hBits))
  have hUnits := units_ofInt hBits
  rw [if_neg (Int.not_lt.mpr hLow)] at hUnits
  have hUnit : (format.unit : Int) ≠ 0 := by
    have := format.unit_pos
    omega
  have hWhole : (ofInt n).toIntIn 0 0xffffffffffffffff = rounded n.natAbs := by
    rw [toIntIn, isNaN_ofInt, hFinite, hUnits, BinaryFormat.unit_eq, Int.mul_tdiv_cancel _ hUnit]
    simp only [Bool.false_eq_true, if_false]
    omega
  rw [toUInt64, hWhole, Int.toNat_natCast, UInt64.toNat_ofNat']
  omega

end Binary64

end RelPipe.Number
