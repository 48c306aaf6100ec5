import Mathlib.Tactic.SplitIfs
import RelPipe.Number.Decimal128
import RelPipe.Proofs.Text.Numeral

/-!
Decimals hold the numbers they are made of, and a numeral without a point or an exponent is read as
the integer that its digits denote.
-/

namespace RelPipe.Number.Decimal128

set_option autoImplicit false

variable {negative : Bool} {c : Nat} {e : Int}

theorem encoding_finite (negative : Bool) (c : Nat) (e : Int) :
    encoding (.finite negative c e) =
      (if negative then 2 ^ 127 else 0) + (e + 6176).toNat * 2 ^ 113 + c := by
  rw [encoding, minExponent, Int.sub_neg]
  rfl

theorem field_ofNumber (low count : Nat) (hc : c < 10 ^ 34) (he : e ≤ 6111) :
    (ofNumber (.finite negative c e)).field low count =
      ((if negative then 2 ^ 127 else 0) + (e + 6176).toNat * 2 ^ 113 + c) /
        2 ^ low % 2 ^ count := by
  have hBits : (ofNumber (.finite negative c e)).bits.toNat =
      (if negative then 2 ^ 127 else 0) + (e + 6176).toNat * 2 ^ 113 + c := by
    rw [ofNumber, BitVec.toNat_ofNat, encoding_finite]
    split_ifs <;> omega
  rw [field, hBits]
  rfl

/-- The two bits at the top of an exponent in range are never both set, and the other forms of
encodings begin with these. -/
theorem number_ofNumber_finite (hc : c < 10 ^ 34) (hLow : -6176 ≤ e) (hHigh : e ≤ 6111) :
    (ofNumber (.finite negative c e)).number = .finite negative c e := by
  have hField (low count : Nat) : (ofNumber (.finite negative c e)).field low count = _ :=
    field_ofNumber low count hc hHigh
  have hSign : decide ((ofNumber (.finite negative c e)).field 127 1 = 1) = negative := by
    rw [hField]
    cases negative
    · exact decide_eq_false (by simp only [Bool.false_eq_true, if_false]; omega)
    · exact decide_eq_true (by simp only [if_true]; omega)
  have hNaN : (ofNumber (.finite negative c e)).field 122 5 ≠ 31 := by
    rw [hField]
    split_ifs <;> omega
  have hInfinity : (ofNumber (.finite negative c e)).field 123 4 ≠ 15 := by
    rw [hField]
    split_ifs <;> omega
  have hLong : (ofNumber (.finite negative c e)).field 125 2 ≠ 3 := by
    rw [hField]
    split_ifs <;> omega
  have hExponent : ((ofNumber (.finite negative c e)).field 113 14 : Int) = e + 6176 := by
    rw [hField]
    split_ifs <;> omega
  have hCoefficient : (ofNumber (.finite negative c e)).field 0 113 = c := by
    rw [hField]
    split_ifs <;> omega
  have hFits : c < Nat.pow 10 maxDigits := hc
  unfold number
  dsimp only
  rw [if_neg hNaN, if_neg hInfinity, if_neg hLong, hSign, hExponent, hCoefficient, if_pos hFits,
    minExponent]
  congr 1
  omega

/-- Zeros in front do not count, and up to 34 digits are all kept. -/
theorem finite?_digits {ds : List Char} (negative : Bool) (hDigits : ∀ c ∈ ds, c.isDigit = true)
    (hValue : Text.Numeral.value ds < 10 ^ 34) :
    finite? negative ds = some (.finite negative (Text.Numeral.value ds) 0) := by
  have hNoE : 'e' ∉ ds := fun h => absurd (hDigits _ h) (by decide)
  have hNoPoint : '.' ∉ ds := fun h => absurd (hDigits _ h) (by decide)
  have hExponent : exponentIn? 0 = some 0 := rfl
  have hSame := Text.Numeral.value_dropWhile_zero ds
  unfold finite?
  rw [Text.cutAt?_of_not_mem hNoE]
  simp only [Option.bind_eq_bind, Option.bind_some, hExponent, Text.cutAt?_of_not_mem hNoPoint]
  cases hSignificant : ds.dropWhile (· == '0') with
  | nil =>
    rw [hSignificant] at hSame
    rw [← hSame]
    rfl
  | cons c cs =>
    have hAll : ∀ d ∈ c :: cs, d.isDigit = true := fun d hd =>
      hDigits d ((List.dropWhile_sublist _).subset (hSignificant ▸ hd))
    have hDigit := hAll c (.head _)
    have hNonzero : c ≠ '0' := by
      have hHead := List.head?_dropWhile_not (· == '0') ds
      rw [hSignificant] at hHead
      simpa using hHead
    have hLength : (c :: cs).length ≤ maxDigits := by
      have hPower := Nat.lt_of_le_of_lt (Text.Numeral.pow_length_le_value hDigit hNonzero)
        (hSignificant ▸ hSame ▸ hValue)
      exact (Nat.pow_lt_pow_iff_right (by decide)).mp hPower
    have hFit : fitDigits? (c :: cs) 0 = some (c :: cs, 0) := if_pos hLength
    have hExponents : fitExponent? (c :: cs) 0 = some (c :: cs, 0) := rfl
    have hCoefficient : coefficient? (c :: cs) = some (Text.Numeral.value ds) := by
      rw [← hSame, hSignificant, ← Text.Numeral.natural?_of_isDigit (by simp) hAll, coefficient?]
      rintro rest hPlus
      obtain ⟨rfl, -⟩ := List.cons.inj hPlus
      exact absurd hDigit (by decide)
    simp only [List.isEmpty_cons, Bool.false_eq_true, if_false, hFit, Option.bind_some, hExponents,
      hCoefficient]
    rfl

theorem toLower_of_isDigit {c : Char} (h : c.isDigit = true) : c.toLower = c := by
  simp only [Char.isDigit, Bool.and_eq_true, decide_eq_true_eq] at h
  have hBelow : ¬ ('A'.val ≤ c.val) := fun hUpper =>
    absurd (UInt32.le_trans hUpper h.2) (by decide)
  exact dif_neg fun hLetter => hBelow hLetter.1

theorem sign_digits {ds : List Char} (negative : Bool) (hDigits : ∀ c ∈ ds, c.isDigit = true) :
    sign ((if negative then ['-'] else []) ++ ds) = (negative, ds) := by
  cases negative with
  | true => rfl
  | false =>
    cases ds with
    | nil => rfl
    | cons c cs =>
      have hDigit := hDigits c (.head _)
      change sign (c :: cs) = (false, c :: cs)
      rw [sign]
      · rintro rest hMinus
        obtain ⟨rfl, -⟩ := List.cons.inj hMinus
        exact absurd hDigit (by decide)
      · rintro rest hPlus
        obtain ⟨rfl, -⟩ := List.cons.inj hPlus
        exact absurd hDigit (by decide)

theorem ofText?_digits {ds : List Char} (negative : Bool) (hDigits : ∀ c ∈ ds, c.isDigit = true)
    (hValue : Text.Numeral.value ds < 10 ^ 34) :
    ofText? ((if negative then ['-'] else []) ++ ds) =
      some (ofNumber (.finite negative (Text.Numeral.value ds) 0)) := by
  have hLower : ds.map Char.toLower = ds :=
    (List.map_congr_left fun c hc => toLower_of_isDigit (hDigits c hc)).trans (List.map_id ds)
  have hName {name : List Char} (h : ∃ c ∈ name, c.isDigit = false) : ds ≠ name := by
    rintro rfl
    obtain ⟨c, hc, hNone⟩ := h
    rw [hDigits c hc] at hNone
    cases hNone
  rw [ofText?, numberOfText?, sign_digits negative hDigits]
  dsimp only
  rw [hLower, if_neg (hName (by simp)), if_neg (hName (by simp)), if_neg,
    finite?_digits negative hDigits hValue]
  · rfl
  · rw [Bool.or_eq_true, decide_eq_true_eq, decide_eq_true_eq, not_or]
    exact ⟨hName (by simp), hName (by simp)⟩

end RelPipe.Number.Decimal128
