import RelPipe.Number.Numeral
import RelPipe.Proofs.Number.Integers
import RelPipe.Proofs.Text.Numeral

/-!
The shortest digits of the doubles that are nearest to integers. An integer is a point of the grid
of integers, so that the search ends there at the latest and no place follows the point.
-/

namespace RelPipe.Number

set_option autoImplicit false

/-- The integer that digits without places after the point stand for. -/
def Digits.whole (d : Digits) : Nat := d.digits * 10 ^ d.exponent.toNat

theorem Digits.whole_strip {d : Digits} (fuel : Nat) (h : 0 ≤ d.exponent) :
    0 ≤ (d.strip fuel).exponent ∧ (d.strip fuel).whole = d.whole := by
  induction fuel generalizing d with
  | zero => exact ⟨h, rfl⟩
  | succ fuel ih =>
    rw [strip]
    split
    · rename_i hZero
      have hExponent : (d.exponent + 1).toNat = d.exponent.toNat + 1 := by omega
      have hDigits : d.digits / 10 * 10 = d.digits := by omega
      obtain ⟨hNonneg, hWhole⟩ := @ih ⟨d.digits / 10, d.exponent + 1⟩ (by dsimp only; omega)
      refine ⟨hNonneg, hWhole.trans ?_⟩
      rw [whole, whole, hExponent, Nat.pow_succ', ← Nat.mul_assoc, hDigits]
    · exact ⟨h, rfl⟩

namespace Shortest

namespace Interval

/-- An interval around an integer that is not wider than the integer is large. -/
structure Around (i : Interval) (m : Nat) : Prop where
  den_pos : 0 < i.den
  value_eq : i.value = m * i.den
  low_lt : i.low < i.value
  lt_high : i.value < i.high
  high_le : i.high ≤ 2 * i.value

variable {i : Interval} {m : Nat}

theorem contains_iff {digits : Nat} {e : Int} (he : 0 ≤ e) :
    i.contains digits e = true ↔
      i.low ≤ digits * 10 ^ e.toNat * i.den ∧ digits * 10 ^ e.toNat * i.den ≤ i.high ∧
        (i.closed = false →
          i.low ≠ digits * 10 ^ e.toNat * i.den ∧ digits * 10 ^ e.toNat * i.den ≠ i.high) := by
  have hPoint : digits * 10 ^ e.toNat * i.den = digits * (i.den * Nat.pow 10 e.toNat) := by
    rw [Nat.mul_assoc, Nat.mul_comm (10 ^ e.toNat)]
    rfl
  rw [hPoint]
  unfold contains onGrid
  rw [if_pos he, if_pos he]
  dsimp only
  cases i.closed
  · simp only [Bool.false_eq_true, if_false, Bool.and_eq_true, decide_eq_true_eq, forall_const]
    omega
  · simp

theorem contains_of_point? {digits : Nat} {e : Int} (h : i.point? e = some digits) :
    i.contains digits e = true := by
  unfold point? at h
  dsimp only at h
  split at h
  · rename_i hDown hUp
    split at h <;> obtain rfl := Option.some.inj h
    · exact hDown
    · exact hUp
  · rename_i hDown _
    obtain rfl := Option.some.inj h
    exact hDown
  · rename_i _ hUp
    obtain rfl := Option.some.inj h
    exact hUp
  · cases h

/-- One of the two points around the value suffices. -/
theorem Around.point?_ne_none (h : i.Around m) (e : Nat)
    (hNear : i.contains (m / 10 ^ e) e = true ∨ i.contains (m / 10 ^ e + 1) e = true) :
    i.point? e ≠ none := by
  have hGrid : onGrid e i.value i.den = (m * i.den, i.den * 10 ^ e) := by
    rw [onGrid, if_pos (by omega), h.value_eq]
    rfl
  have hDown : m * i.den / (i.den * 10 ^ e) = m / 10 ^ e := by
    rw [Nat.mul_comm m, Nat.mul_div_mul_left _ _ h.den_pos]
  unfold point?
  rw [hGrid]
  dsimp only
  rw [hDown]
  rcases hNear with hNear | hNear
  · rw [hNear]
    cases i.contains (m / 10 ^ e + 1) e <;> simp
  · rw [hNear]
    cases i.contains (m / 10 ^ e) e <;> simp

theorem Around.point?_zero (h : i.Around m) : i.point? 0 = some m := by
  have hGrid : ∀ num, onGrid 0 num i.den = (num, i.den) := fun num => by
    rw [onGrid, if_pos (Int.le_refl 0)]
    exact congrArg (num, ·) (Nat.mul_one i.den)
  have hDown : i.value / i.den = m := by rw [h.value_eq, Nat.mul_div_cancel _ h.den_pos]
  have hRest : i.value % i.den = 0 := by rw [h.value_eq, Nat.mul_mod_left]
  have hContained : i.contains m 0 = true := by
    have hLow := h.low_lt
    have hHigh := h.lt_high
    rw [h.value_eq] at hLow hHigh
    unfold contains
    rw [hGrid, hGrid]
    simp [hLow, hHigh, Nat.le_of_lt hLow, Nat.le_of_lt hHigh]
  unfold point?
  rw [hGrid]
  dsimp only
  rw [hDown, hContained, hRest, if_pos (by have := h.den_pos; omega)]
  cases i.contains (m + 1) 0 <;> rfl

/-- The search does not go beyond the grid of integers. It finds a point of the interval if one of
the grids it may come to has one. -/
theorem Around.search_spec (h : i.Around m) (fuel : Nat) {e : Int} (he : 0 ≤ e) :
    0 ≤ (i.search fuel e).exponent ∧ (i.search fuel e).whole * i.den ≤ i.high ∧
      ∀ goal ≤ e, e < goal + fuel → i.point? goal ≠ none →
        i.contains (i.search fuel e).digits (i.search fuel e).exponent = true := by
  induction fuel generalizing e with
  | zero =>
    refine ⟨he, ?_, fun goal hGoal hLess => absurd hGoal (by omega)⟩
    have hBelow : i.value / (i.den * Nat.pow 10 e.toNat) * (i.den * Nat.pow 10 e.toNat) ≤ i.value :=
      Nat.div_mul_le_self _ _
    have hWhole : (i.search 0 e).whole * i.den =
        i.value / (i.den * Nat.pow 10 e.toNat) * (i.den * Nat.pow 10 e.toNat) := by
      rw [search, onGrid, if_pos he, Digits.whole, Nat.mul_assoc, Nat.mul_comm i.den]
      rfl
    have hHigh := h.lt_high
    omega
  | succ fuel ih =>
    rw [search]
    cases hPoint : i.point? e with
    | some digits =>
      have hContained := contains_of_point? hPoint
      exact ⟨he, ((contains_iff he).mp hContained).2.1, fun _ _ _ _ => hContained⟩
    | none =>
      have hNonzero : e ≠ 0 := by
        rintro rfl
        rw [h.point?_zero] at hPoint
        cases hPoint
      obtain ⟨hExponent, hWhole, hFound⟩ := @ih (e - 1) (by omega)
      refine ⟨hExponent, hWhole, fun goal hGoal hLess hSome => hFound goal ?_ (by omega) hSome⟩
      have hOther : goal ≠ e := by
        rintro rfl
        exact hSome hPoint
      omega

end Interval

theorem Interval.Around.floorLog10 {i : Interval} {m : Nat} (h : i.Around m) (hm : m ≠ 0) :
    Shortest.floorLog10 i.value i.den = ((Text.Numeral.digits m).length : Int) - 1 := by
  have hReached : i.den ≤ i.value := by
    rw [h.value_eq]
    exact Nat.le_mul_of_pos_left _ (Nat.pos_of_ne_zero hm)
  have hWhole : i.value / i.den = m := by rw [h.value_eq, Nat.mul_div_cancel _ h.den_pos]
  rw [Shortest.floorLog10, if_pos hReached, hWhole]

section

open BinaryFormat

theorem interval_of_split {f : BinaryFormat} {magnitude s k : Nat}
    (h : f.split magnitude = (s, k)) :
    interval f magnitude =
      { low := 4 * (s * 2 ^ k) - if s = 2 ^ f.fraction ∧ 0 < k then 2 ^ k else 2 * 2 ^ k
        value := 4 * (s * 2 ^ k)
        high := 4 * (s * 2 ^ k) + 2 * 2 ^ k
        den := 4 * f.unit
        closed := s % 2 = 0 } := by
  have hGap : Nat.pow 2 k = 2 ^ k := rfl
  unfold interval
  rw [h]
  dsimp only
  rw [hGap, Nat.mul_assoc]
  rfl

theorem interval_eq {s k : Nat} (hLow : 2 ^ 52 ≤ s) (hHigh : s < 2 ^ 53) :
    interval binary64 (k * 2 ^ 52 + s) =
      { low := 4 * (s * 2 ^ k) - below s k
        value := 4 * (s * 2 ^ k)
        high := 4 * (s * 2 ^ k) + 2 * 2 ^ k
        den := 4 * binary64.unit
        closed := s % 2 = 0 } := by
  rw [interval_of_split (split_of_lt hLow hHigh)]
  rfl

theorem below_bounds (s k : Nat) : 0 < below s k ∧ below s k ≤ 2 * 2 ^ k := by
  have hGap : 0 < 2 ^ k := Nat.two_pow_pos k
  unfold below
  split <;> omega

/-- The interval of a double contains the integers that are rounded to it. -/
theorem contains_interval_iff {s k digits : Nat} {e : Int} (hLow : 2 ^ 52 ≤ s) (hHigh : s < 2 ^ 53)
    (he : 0 ≤ e) :
    (interval binary64 (k * 2 ^ 52 + s)).contains digits e = true ↔
      RoundsTo s k (digits * 10 ^ e.toNat * binary64.unit) := by
  have hBelow := below_bounds s k
  have hSmall := Nat.mul_le_mul_right (2 ^ k) hLow
  rw [Interval.contains_iff he, interval_eq hLow hHigh]
  dsimp only
  rw [Nat.mul_left_comm (digits * 10 ^ e.toNat), RoundsTo, decide_eq_false_iff_not]
  omega

theorem interval_around {s k m : Nat} (hLow : 2 ^ 52 ≤ s) (hHigh : s < 2 ^ 53)
    (hValue : s * 2 ^ k = m * binary64.unit) :
    (interval binary64 (k * 2 ^ 52 + s)).Around m := by
  have hBelow := below_bounds s k
  have hSmall := Nat.mul_le_mul_right (2 ^ k) hLow
  have hUnit := binary64.unit_pos
  rw [interval_eq hLow hHigh]
  constructor
  · dsimp only
    omega
  · dsimp only
    rw [hValue, Nat.mul_left_comm]
  · dsimp only
    omega
  · dsimp only
    omega
  · dsimp only
    omega

end

end Shortest

/-- The integer that the shortest digits of the nearest double stand for. -/
def shortest (n : Nat) : Nat :=
  if n = 0 then 0
  else (Shortest.ofMagnitude .binary64 (BinaryFormat.binary64.nearest n 1)).whole

namespace Shortest

open BinaryFormat

variable {n : Nat}

theorem length_digits_pos (n : Nat) : 0 < (Text.Numeral.digits n).length :=
  List.length_pos_iff.mpr (Text.Numeral.digits_ne_nil n)

def found (n : Nat) : Digits :=
  (interval binary64 (binary64.nearest n 1)).search 17
    ((Text.Numeral.digits (rounded n)).length - 1)

/-- The grid that is seventeen digits long is finer than the doubles are. -/
theorem roundsTo_neighbour {s k m t : Nat} (hLow : 2 ^ 52 ≤ s) (hHigh : s < 2 ^ 53)
    (hValue : s * 2 ^ k = m * binary64.unit) (hLarge : 10 ^ 16 * t ≤ m) (ht : 0 < t) :
    RoundsTo s k (m / t * t * binary64.unit) ∨
      RoundsTo s k ((m / t + 1) * t * binary64.unit) := by
  have hRest : m % t < t := Nat.mod_lt m ht
  have hDown : m / t * t * binary64.unit + m % t * binary64.unit = m * binary64.unit := by
    rw [← Nat.add_mul, Nat.div_add_mod']
  have hUp : (m / t + 1) * t * binary64.unit = m / t * t * binary64.unit + t * binary64.unit := by
    rw [Nat.succ_mul, Nat.add_mul]
  have hGrid : 10 ^ 16 * (t * binary64.unit) ≤ s * 2 ^ k := by
    rw [hValue, ← Nat.mul_assoc]
    exact Nat.mul_le_mul_right _ hLarge
  have hStep : m % t * binary64.unit < t * binary64.unit :=
    Nat.mul_lt_mul_of_pos_right hRest binary64.unit_pos
  have hGap : s * 2 ^ k < 2 ^ 53 * 2 ^ k := Nat.mul_lt_mul_of_pos_right hHigh (Nat.two_pow_pos k)
  rw [hUp]
  unfold RoundsTo below
  split_ifs with hPower
  · obtain ⟨rfl, -⟩ := hPower
    omega
  · omega

/-- A number of more than 17 digits has a point of a coarser grid in its interval, and others have
themselves on the grid of integers. -/
theorem exists_grid {s k m : Nat} (hLow : 2 ^ 52 ≤ s) (hHigh : s < 2 ^ 53)
    (hValue : s * 2 ^ k = m * binary64.unit) :
    ∃ goal : Nat, (goal : Int) ≤ (Text.Numeral.digits m).length - 1 ∧
      ((Text.Numeral.digits m).length : Int) - 1 < goal + 17 ∧
      (interval binary64 (k * 2 ^ 52 + s)).point? goal ≠ none := by
  have hAround := interval_around hLow hHigh hValue
  have hLength := length_digits_pos m
  by_cases hShort : (Text.Numeral.digits m).length ≤ 17
  · refine ⟨0, by omega, by omega, ?_⟩
    rw [Int.natCast_zero, hAround.point?_zero]
    exact Option.some_ne_none m
  · obtain ⟨goal, hGoal⟩ : ∃ goal, (Text.Numeral.digits m).length = goal + 17 :=
      ⟨(Text.Numeral.digits m).length - 17, by omega⟩
    have hLarge : 10 ^ 16 * 10 ^ goal ≤ m := by
      rw [← Nat.pow_add, ← Nat.not_lt, ← Nat.length_toDigits_le_iff (by decide) (by omega)]
      change ¬ (Text.Numeral.digits m).length ≤ 16 + goal
      omega
    refine ⟨goal, by omega, by omega, hAround.point?_ne_none goal ?_⟩
    rw [contains_interval_iff hLow hHigh (by omega), contains_interval_iff hLow hHigh (by omega),
      Int.toNat_natCast]
    exact roundsTo_neighbour hLow hHigh hValue hLarge (Nat.pow_pos (by decide))

section

variable (h : n ≠ 0) (hBits : n < 2 ^ 64)
include h hBits

theorem exists_scaled :
    ∃ s k, 2 ^ 52 ≤ s ∧ s < 2 ^ 53 ∧ binary64.nearest n 1 = k * 2 ^ 52 + s ∧
      s * 2 ^ k = rounded n * binary64.unit := by
  have hUnits := units_nearest hBits
  obtain ⟨hLow, hHigh⟩ := significand_mem h
  rw [nearest_integer h (by omega)] at hUnits ⊢
  rcases Nat.lt_or_eq_of_le hHigh with hLess | hTop
  · rw [units_add hLow hHigh] at hUnits
    exact ⟨_, _, hLow, hLess, rfl, hUnits⟩
  · rw [hTop, units_add (by decide) (Nat.le_refl _)] at hUnits
    refine ⟨2 ^ 52, n.log2 + 1023, Nat.le_refl _, by decide, by omega, ?_⟩
    rw [← hUnits, ← Nat.pow_add, ← Nat.pow_add]
    exact congrArg (2 ^ ·) (by omega)

theorem found_spec :
    0 ≤ (found n).exponent ∧ (found n).whole ≤ 2 * rounded n ∧
      binary64.nearest (found n).whole 1 = binary64.nearest n 1 := by
  obtain ⟨s, k, hLow, hHigh, hNearest, hValue⟩ := exists_scaled h hBits
  have hAround := interval_around hLow hHigh hValue
  have hRounded : rounded n ≤ 2 ^ 64 := rounded_le hBits
  have hLength := length_digits_pos (rounded n)
  obtain ⟨goal, hGoal, hNear, hSome⟩ := exists_grid hLow hHigh hValue
  obtain ⟨hExponent, hWhole, hContained⟩ := hAround.search_spec 17
    (e := (Text.Numeral.digits (rounded n)).length - 1) (by omega)
  have hFound : found n = (interval binary64 (k * 2 ^ 52 + s)).search 17
      ((Text.Numeral.digits (rounded n)).length - 1) := by
    rw [found, hNearest]
  rw [← hFound] at hExponent hWhole hContained
  have hWholeLe : (found n).whole ≤ 2 * rounded n := by
    have hProduct := Nat.le_trans hWhole hAround.high_le
    rw [hAround.value_eq, ← Nat.mul_assoc] at hProduct
    exact Nat.le_of_mul_le_mul_right hProduct hAround.den_pos
  have hRounds : RoundsTo s k ((found n).whole * binary64.unit) :=
    (contains_interval_iff hLow hHigh hExponent).mp
      (hContained goal hGoal hNear hSome)
  have hSomething : (found n).whole ≠ 0 := by
    intro hZero
    have hBelow := below_bounds s k
    have hSmall := Nat.mul_le_mul_right (2 ^ k) hLow
    have hLeast := hRounds.1
    rw [hZero, Nat.zero_mul] at hLeast
    omega
  refine ⟨hExponent, hWholeLe, ?_⟩
  rw [hNearest]
  exact (nearest_eq_iff hLow hHigh hSomething (by omega)).mpr hRounds

theorem ofMagnitude_nearest :
    ofMagnitude binary64 (binary64.nearest n 1) = (found n).strip 1 := by
  obtain ⟨s, k, hLow, hHigh, hNearest, hValue⟩ := exists_scaled h hBits
  have hStart := (interval_around hLow hHigh hValue).floorLog10 (rounded_ne_zero h)
  rw [found, ← hStart, hNearest]
  rfl

theorem exponent_ofMagnitude_nearest :
    0 ≤ (ofMagnitude binary64 (binary64.nearest n 1)).exponent := by
  rw [ofMagnitude_nearest h hBits]
  exact (Digits.whole_strip 1 (found_spec h hBits).1).1

theorem shortest_eq_found : shortest n = (found n).whole := by
  rw [shortest, if_neg h, ofMagnitude_nearest h hBits]
  exact (Digits.whole_strip 1 (found_spec h hBits).1).2

end

theorem shortest_le (hBits : n < 2 ^ 64) : shortest n ≤ 2 * rounded n := by
  by_cases h : n = 0
  · rw [h]
    decide
  · rw [shortest_eq_found h hBits]
    exact (found_spec h hBits).2.1

theorem nearest_shortest (hBits : n < 2 ^ 64) :
    binary64.nearest (shortest n) 1 = binary64.nearest n 1 := by
  by_cases h : n = 0
  · rw [h]
    rfl
  · rw [shortest_eq_found h hBits]
    exact (found_spec h hBits).2.2

theorem shortest_ne_zero (h : n ≠ 0) (hBits : n < 2 ^ 64) : shortest n ≠ 0 := by
  intro hZero
  have hNearest := nearest_shortest hBits
  have hLeast := (significand_mem h).1
  rw [hZero, nearest_integer h (by omega)] at hNearest
  change 0 = _ at hNearest
  omega

/-- Up to 2 ^ 53 no two integers have the same double. -/
theorem shortest_of_le (hSmall : n ≤ 2 ^ 53) : shortest n = n := by
  rcases Nat.lt_or_eq_of_le hSmall with hLess | rfl
  · have hBits : n < 2 ^ 64 := by omega
    have hSame := congrArg binary64.units (nearest_shortest hBits)
    have hLimit := shortest_le hBits
    rw [rounded_of_le hSmall] at hLimit
    rw [units_nearest (by omega), units_nearest hBits, rounded_of_le hSmall] at hSame
    have hRounded := Nat.eq_of_mul_eq_mul_right binary64.unit_pos hSame
    have hBelow : shortest n < 2 ^ 53 := by
      rw [← Nat.not_le]
      intro hAbove
      have := le_rounded hAbove
      omega
    rwa [rounded_of_le (Nat.le_of_lt hBelow)] at hRounded
  · decide +kernel

end Shortest

/-- Digits without places after the point are written out with their zeros. -/
theorem Digits.positional_spec {d : Digits} (h : 0 ≤ d.exponent) :
    (∀ c ∈ d.positional, c.isDigit = true) ∧ Text.Numeral.value d.positional = d.whole := by
  have hText : d.positional =
      Text.Numeral.digits d.digits ++ List.replicate d.exponent.toNat '0' := if_pos h
  rw [hText]
  refine ⟨fun c hc => ?_, ?_⟩
  · obtain hDigit | hZero := List.mem_append.mp hc
    · exact Text.Numeral.isDigit_of_mem_digits hDigit
    · rw [(List.mem_replicate.mp hZero).2]
      decide
  · rw [Text.Numeral.value_append, Text.Numeral.value_zeros, Text.Numeral.value_digits,
      List.length_replicate, Nat.add_zero, Nat.mul_comm]
    rfl

/-- The double nearest to an integer is written as an integer. -/
theorem Binary64.exists_text_ofInt {n : Int} (h : n.natAbs < 2 ^ 64) :
    ∃ ds, (ofInt n).text.toList = (if n < 0 then ['-'] else []) ++ ds ∧
      (∀ c ∈ ds, c.isDigit = true) ∧ Text.Numeral.value ds = shortest n.natAbs := by
  obtain ⟨hMagnitude, hSign⟩ := magnitude_ofInt n
  have hFinite := magnitude_ofInt_lt h
  have hText : ∃ d : Digits, (ofInt n).text.toList = (if n < 0 then ['-'] else []) ++ d.positional ∧
      0 ≤ d.exponent ∧ d.whole = shortest n.natAbs := by
    rw [text, layout, if_neg (by omega), if_neg (by omega), hMagnitude, hSign, String.toList_ofList]
    simp only [decide_eq_true_eq]
    by_cases hZero : n.natAbs = 0
    · have hNothing : format.nearest 0 1 = 0 := rfl
      rw [hZero, if_pos hNothing]
      exact ⟨⟨0, 0⟩, rfl, Int.le_refl 0, rfl⟩
    · have hSome : format.nearest n.natAbs 1 ≠ 0 := by
        have := (BinaryFormat.significand_mem hZero).1
        rw [BinaryFormat.nearest_integer hZero (by omega)]
        omega
      rw [if_neg hSome]
      exact ⟨_, rfl, Shortest.exponent_ofMagnitude_nearest hZero h, by rw [shortest, if_neg hZero]⟩
  obtain ⟨d, hText, hExponent, hWhole⟩ := hText
  obtain ⟨hDigits, hValue⟩ := Digits.positional_spec hExponent
  exact ⟨d.positional, hText, hDigits, hValue.trans hWhole⟩

end RelPipe.Number
