import Mathlib.Algebra.Group.Nat.Defs
import Mathlib.Tactic.SplitIfs
import RelPipe.Number.Binary64

/-!
Rounding integers to doubles keeps their order: of two integers the smaller never becomes the larger
double, though the two may become one. No integer becomes a NaN.
-/

namespace RelPipe.Number

set_option autoImplicit false

theorem roundDiv_mono {m n d : Nat} (h : m ≤ n) : roundDiv m d ≤ roundDiv n d := by
  have hm := Nat.div_add_mod m d
  have hn := Nat.div_add_mod n d
  have hQuotient : m / d ≤ n / d := Nat.div_le_div_right h
  unfold roundDiv
  dsimp only
  rcases Nat.lt_or_eq_of_le hQuotient with hLess | hSame
  · split_ifs <;> omega
  · rw [hSame] at hm ⊢
    split_ifs <;> omega

theorem roundDiv_mul (n : Nat) {d : Nat} (hd : 0 < d) : roundDiv (n * d) d = n := by
  simp [roundDiv, Nat.mul_div_cancel n hd, hd]

theorem roundDiv_mul_mul (n d : Nat) {k : Nat} (hk : 0 < k) :
    roundDiv (n * k) (d * k) = roundDiv n d := by
  have hLess (a b : Nat) : a * k < b * k ↔ a < b := Nat.mul_lt_mul_right hk
  unfold roundDiv
  simp only [Nat.mul_div_mul_right _ _ hk, Nat.mul_mod_mul_right, ← Nat.mul_assoc, hLess]

/-- A quotient is at most half from the number it is rounded to, and less than that from an odd
one. -/
theorem roundDiv_eq_iff {n d q : Nat} (hd : 0 < d) :
    roundDiv n d = q ↔
      2 * n ≤ 2 * (q * d) + d ∧ 2 * (q * d) ≤ 2 * n + d ∧
        (q % 2 = 1 → 2 * n ≠ 2 * (q * d) + d ∧ 2 * (q * d) ≠ 2 * n + d) := by
  have hSplit := Nat.div_add_mod n d
  have hRest := Nat.mod_lt n hd
  rw [Nat.mul_comm] at hSplit
  have hNext : (n / d + 1) * d = n / d * d + d := Nat.succ_mul _ _
  unfold roundDiv
  dsimp only
  constructor
  · intro h
    split_ifs at h <;> subst h <;> (try rw [hNext]) <;> omega
  · rintro ⟨hHigh, hLow, hOdd⟩
    have hNear : q = n / d ∨ q = n / d + 1 := by
      rcases Nat.lt_or_ge q (n / d) with hLess | hMore
      · have := Nat.mul_le_mul_right d hLess
        rw [Nat.succ_mul] at this
        omega
      · rcases Nat.lt_or_ge (n / d + 1) q with hLess | hLimit
        · have := Nat.mul_le_mul_right d hLess
          rw [Nat.succ_mul, hNext] at this
          omega
        · omega
    rcases hNear with rfl | rfl
    · split_ifs <;> omega
    · rw [hNext] at hHigh hLow hOdd
      split_ifs <;> omega

namespace BinaryFormat

theorem floorLog2_one {n : Nat} (h : n ≠ 0) : floorLog2 n 1 = n.log2 := by
  have hReached := Nat.log2_self_le h
  have hOne : Nat.log2 1 = 0 := by decide
  simp [floorLog2, hOne, hReached]

/-- The significand of a positive integer, which has 53 bits or is the least number that has more.
-/
def significand (n : Nat) : Nat :=
  if n.log2 < 52 then n * 2 ^ (52 - n.log2) else roundDiv n (2 ^ (n.log2 - 52))

theorem nearest_one {n : Nat} (h : n ≠ 0) :
    binary64.nearest n 1 =
      min binary64.infinity ((n.log2 + 1022) * 2 ^ 52 + significand n) := by
  have hMax : max ((n.log2 : Int) - (52 : Nat)) (-(1074 : Nat)) = n.log2 - 52 := by omega
  have hExponent : ((n.log2 : Int) - 52 + (1074 : Nat)).toNat = n.log2 + 1022 := by omega
  have hOne : ∀ k, roundDiv k 1 = k := fun k => by simpa using roundDiv_mul k Nat.one_pos
  unfold nearest significand
  rw [if_neg h, floorLog2_one h]
  dsimp only [binary64]
  rw [hMax, hExponent]
  by_cases hSmall : n.log2 < 52
  · rw [if_neg (by omega), if_pos hSmall, hOne]
    have hScale : (-((n.log2 : Int) - 52)).toNat = 52 - n.log2 := by omega
    rw [hScale]
    rfl
  · have hScale : ((n.log2 : Int) - 52).toNat = n.log2 - 52 := by omega
    rw [if_pos (by omega), if_neg hSmall, hScale, Nat.one_mul]
    rfl

theorem significand_mem {n : Nat} (h : n ≠ 0) :
    2 ^ 52 ≤ significand n ∧ significand n ≤ 2 ^ 53 := by
  have hLow := Nat.log2_self_le h
  have hHigh : n < 2 ^ (n.log2 + 1) := Nat.lt_log2_self
  unfold significand
  split
  · rename_i hSmall
    obtain ⟨k, hk⟩ : ∃ k, n.log2 + k = 52 := ⟨52 - n.log2, by omega⟩
    have hPower : 52 - n.log2 = k := by omega
    rw [hPower, ← hk, show 53 = n.log2 + 1 + k by omega, Nat.pow_add, Nat.pow_add]
    exact ⟨Nat.mul_le_mul_right _ hLow, Nat.mul_le_mul_right _ (Nat.le_of_lt hHigh)⟩
  · obtain ⟨k, hk⟩ : ∃ k, n.log2 = 52 + k := ⟨n.log2 - 52, by omega⟩
    have hPower : n.log2 - 52 = k := by omega
    have hUnit : 0 < 2 ^ k := Nat.two_pow_pos k
    rw [hk, Nat.pow_add] at hLow
    rw [hk, show 52 + k + 1 = 53 + k by omega, Nat.pow_add] at hHigh
    rw [hPower]
    constructor
    · exact roundDiv_mul (2 ^ 52) hUnit ▸ roundDiv_mono hLow
    · exact roundDiv_mul (2 ^ 53) hUnit ▸ roundDiv_mono (Nat.le_of_lt hHigh)

theorem significand_mono {m n : Nat} (hLog : m.log2 = n.log2) (h : m ≤ n) :
    significand m ≤ significand n := by
  unfold significand
  rw [hLog]
  split
  · exact Nat.mul_le_mul_right _ h
  · exact roundDiv_mono h

theorem log2_mono {m n : Nat} (hm : m ≠ 0) (h : m ≤ n) : m.log2 ≤ n.log2 := by
  rw [Nat.le_log2 (by omega)]
  exact Nat.le_trans (Nat.log2_self_le hm) h

theorem nearest_mono {m n : Nat} (h : m ≤ n) : binary64.nearest m 1 ≤ binary64.nearest n 1 := by
  by_cases hm : m = 0
  · rw [hm]
    exact Nat.zero_le _
  · have hn : n ≠ 0 := by omega
    rw [nearest_one hm, nearest_one hn]
    refine Nat.le_min.mpr ⟨Nat.min_le_left _ _, Nat.le_trans (Nat.min_le_right _ _) ?_⟩
    rcases Nat.lt_or_eq_of_le (log2_mono hm h) with hLess | hSame
    · -- A larger exponent makes up for the largest significand.
      have hTop := (significand_mem hm).2
      have hBottom := (significand_mem hn).1
      omega
    · have hSignificand := significand_mono hSame h
      omega

theorem nearest_le (f : BinaryFormat) (num den : Nat) : f.nearest num den ≤ f.infinity := by
  unfold nearest
  split
  · exact Nat.zero_le _
  · exact Nat.min_le_left _ _

end BinaryFormat

namespace Binary64

/-- The position of a number in the numeric order, where NaNs lie below all others. -/
def place (x : Binary64) : Int := if x.isNaN then -0x10000000000000000 else x.key

theorem compare_eq_place (x y : Binary64) : x.compare y = Ord.compare x.place y.place := by
  have hKey : ∀ z : Binary64, -0x10000000000000000 < z.key := by
    intro z
    have hLess : z.magnitude < 0x8000000000000000 := Nat.mod_lt _ (by decide)
    unfold key
    split <;> omega
  have hx := hKey x
  have hy := hKey y
  unfold compare place
  cases x.isNaN <;> cases y.isNaN
  · rfl
  · exact (Int.compare_eq_gt.mpr hx).symm
  · exact (Int.compare_eq_lt.mpr hy).symm
  · rfl

theorem key_ofMagnitude (negative : Bool) {m : Nat} (h : m < 0x8000000000000000) :
    (ofMagnitude negative m).magnitude = m ∧ (ofMagnitude negative m).isNegative = negative := by
  cases negative
  · have hBits : (ofMagnitude false m).bits.toNat = m := by
      simp only [ofMagnitude, UInt64.toNat_ofNat', Bool.false_eq_true, if_false]
      omega
    refine ⟨?_, ?_⟩
    · rw [magnitude, hBits]
      omega
    · rw [isNegative, hBits]
      simpa using h
  · have hBits : (ofMagnitude true m).bits.toNat = m + 0x8000000000000000 := by
      simp only [ofMagnitude, UInt64.toNat_ofNat', if_true]
      omega
    refine ⟨?_, ?_⟩
    · rw [magnitude, hBits]
      omega
    · rw [isNegative, hBits]
      simp

theorem magnitude_ofInt (n : Int) :
    (ofInt n).magnitude = format.nearest n.natAbs 1 ∧ (ofInt n).isNegative = decide (n < 0) := by
  have hLimit := format.nearest_le n.natAbs 1
  have hSmall : format.infinity < 0x8000000000000000 := by decide
  exact key_ofMagnitude (n < 0) (Nat.lt_of_le_of_lt hLimit hSmall)

theorem isNaN_ofInt (n : Int) : (ofInt n).isNaN = false := by
  rw [isNaN, (magnitude_ofInt n).1]
  exact decide_eq_false (Nat.not_lt.mpr (format.nearest_le n.natAbs 1))

theorem place_ofInt (n : Int) :
    (ofInt n).place =
      if n < 0 then -(format.nearest n.natAbs 1 : Int) else format.nearest n.natAbs 1 := by
  obtain ⟨hMagnitude, hSign⟩ := magnitude_ofInt n
  rw [place, isNaN_ofInt, key, hMagnitude, hSign]
  simp

/-- Of two integers the smaller does not become the larger double. -/
theorem place_ofInt_mono {m n : Int} (h : m ≤ n) : (ofInt m).place ≤ (ofInt n).place := by
  rw [place_ofInt, place_ofInt]
  have hPositive : 0 ≤ m → format.nearest m.natAbs 1 ≤ format.nearest n.natAbs 1 :=
    fun hm => BinaryFormat.nearest_mono (by omega)
  have hNegative : n < 0 → format.nearest n.natAbs 1 ≤ format.nearest m.natAbs 1 :=
    fun hn => BinaryFormat.nearest_mono (by omega)
  split_ifs <;> omega

end Binary64

end RelPipe.Number
