import Mathlib.Algebra.Group.Nat.Defs
import RelPipe.Text.Hex
import RelPipe.Text.Numeral

/-!
Numerals are read as they were written: decimal numerals, with or without zeros in front, and a
fixed number of hexadecimal digits.
-/

namespace RelPipe.Text

set_option autoImplicit false

namespace Numeral

@[simp] theorem value_digits (n : Nat) : value (digits n) = n := Nat.ofDigitChars_ten_toDigits

theorem value_append (cs ds : List Char) :
    value (cs ++ ds) = 10 ^ ds.length * value cs + value ds := by
  change Nat.ofDigitChars 10 (cs ++ ds) 0 = _
  rw [Nat.ofDigitChars_append, Nat.ofDigitChars_eq_ofDigitChars_zero]
  rfl

theorem value_zeros (n : Nat) : value (List.replicate n '0') = 0 := by
  change Nat.ofDigitChars 10 (List.replicate n '0') 0 = 0
  rw [Nat.ofDigitChars_replicate_zero, Nat.mul_zero]

theorem isDigit_of_mem_digits {n : Nat} {c : Char} (h : c ∈ digits n) : c.isDigit = true :=
  Nat.isDigit_of_mem_toDigits (by decide) (by decide) h

theorem digits_ne_nil (n : Nat) : digits n ≠ [] := Nat.toDigits_ne_nil

theorem natural?_of_isDigit {ds : List Char} (hSome : ds ≠ [])
    (hDigits : ∀ c ∈ ds, c.isDigit = true) : natural? ds = some (value ds) := by
  rw [natural?, List.isEmpty_eq_false_iff.mpr hSome, List.all_eq_true.mpr hDigits]
  rfl

theorem natural?_digits (n : Nat) : natural? (digits n) = some n := by
  rw [natural?_of_isDigit (digits_ne_nil n) fun c hc => isDigit_of_mem_digits hc, value_digits]

theorem integer?_of_isDigit {c : Char} {cs : List Char} (h : c.isDigit = true) :
    integer? (c :: cs) = (natural? (c :: cs)).map Int.ofNat := by
  have hPlus : c ≠ '+' := by
    rintro rfl
    revert h
    decide
  have hMinus : c ≠ '-' := by
    rintro rfl
    revert h
    decide
  rw [integer?]
  · intro ds hds
    exact hPlus (List.cons.inj hds).1
  · intro ds hds
    exact hMinus (List.cons.inj hds).1

theorem integer?_of_digits {ds : List Char} (hSome : ds ≠ [])
    (hDigits : ∀ c ∈ ds, c.isDigit = true) : integer? ds = some (value ds : Int) := by
  obtain ⟨c, cs, rfl⟩ := List.exists_cons_of_ne_nil hSome
  rw [integer?_of_isDigit (hDigits c (.head _)), natural?_of_isDigit hSome hDigits]
  rfl

theorem isDigit_of_natural? {ds : List Char} {n : Nat} (h : natural? ds = some n) {c : Char}
    (hc : c ∈ ds) : c.isDigit = true := by
  rw [natural?] at h
  split at h
  · cases h
  · rename_i hDigits
    simp only [Bool.or_eq_true, not_or, Bool.not_eq_true', Bool.not_eq_false,
      List.all_eq_true] at hDigits
    exact hDigits.2 c hc

theorem isDigit_or_of_integer? {cs : List Char} {n : Int} (h : integer? cs = some n) {c : Char}
    (hc : c ∈ cs) : c.isDigit = true ∨ c = '+' ∨ c = '-' := by
  unfold integer? at h
  split at h
  · obtain ⟨k, hk, -⟩ := Option.map_eq_some_iff.mp h
    obtain rfl | hc := List.mem_cons.mp hc
    · exact .inr (.inl rfl)
    · exact .inl (isDigit_of_natural? hk hc)
  · rename_i ds
    cases hk : natural? ds with
    | none =>
      rw [hk] at h
      cases h
    | some k =>
      obtain rfl | hc := List.mem_cons.mp hc
      · exact .inr (.inr rfl)
      · exact .inl (isDigit_of_natural? hk hc)
  · obtain ⟨k, hk, -⟩ := Option.map_eq_some_iff.mp h
    exact .inl (isDigit_of_natural? hk hc)

theorem int64?_eq_some_iff {cs : List Char} {k : Int64} :
    int64? cs = some k ↔ integer? cs = some k.toInt := by
  have hLow := k.le_toInt
  have hHigh := k.toInt_lt
  constructor
  · intro h
    obtain ⟨n, hn, rfl⟩ := Option.map_eq_some_iff.mp h
    obtain ⟨hRead, hRange⟩ := Option.filter_eq_some_iff.mp hn
    simp only [Bool.and_eq_true, decide_eq_true_eq] at hRange
    rw [hRead, Int64.toInt_ofInt_of_le (by omega) (by omega)]
  · intro h
    have hRange : (decide ((-0x8000000000000000 : Int) ≤ k.toInt) &&
        decide (k.toInt ≤ 0x7fffffffffffffff)) = true := by
      simp only [Bool.and_eq_true, decide_eq_true_eq]
      omega
    rw [int64?, integerIn?, h, Option.filter_some, if_pos hRange, Option.map_some,
      Int64.ofInt_toInt]

theorem exists_digits (n : Nat) : ∃ c cs, digits n = c :: cs ∧ c.isDigit = true := by
  obtain ⟨c, cs, h⟩ := List.exists_cons_of_ne_nil (digits_ne_nil n)
  exact ⟨c, cs, h, isDigit_of_mem_digits (by rw [h]; exact .head _)⟩

/-- Only zero is written with a zero in front. -/
theorem head?_digits_ne {n : Nat} (h : 0 < n) : (digits n).head? ≠ some '0' := by
  have hAll : ∀ k < 10, 0 < k → Nat.digitChar k ≠ '0' := by decide
  induction n using Nat.strongRecOn with
  | ind n ih =>
    by_cases hSmall : n < 10
    · rw [digits, Nat.toDigits_of_lt_base hSmall, List.head?_cons]
      exact fun hZero => hAll n hSmall h (Option.some.inj hZero)
    · have hHigh := ih (n / 10) (by omega) (by omega)
      have hDigits : digits n = digits (n / 10) ++ [(n % 10).digitChar] :=
        Nat.toDigits_of_base_le (by decide) (by omega)
      obtain ⟨c, cs, hFirst, -⟩ := exists_digits (n / 10)
      rw [hFirst] at hHigh hDigits
      rw [hDigits]
      exact hHigh

theorem integer?_digits (n : Nat) : integer? (digits n) = some n := by
  have hRead := natural?_digits n
  obtain ⟨c, cs, h, hDigit⟩ := exists_digits n
  rw [h] at hRead ⊢
  rw [integer?_of_isDigit hDigit, hRead]
  rfl

theorem toList_ofInt_of_neg {n : Int} (h : n < 0) :
    (ofInt n).toList = '-' :: digits n.natAbs := by
  simp [ofInt, ofNat, h]

theorem toList_ofInt_of_nonneg {n : Int} (h : 0 ≤ n) : (ofInt n).toList = digits n.natAbs := by
  simp [ofInt, ofNat, Int.not_lt.mpr h]

theorem integer?_ofInt (n : Int) : integer? (ofInt n).toList = some n := by
  rcases Int.lt_or_le n 0 with hNegative | hNonneg
  · rw [toList_ofInt_of_neg hNegative, integer?, natural?_digits]
    exact congrArg some (by omega : -(n.natAbs : Int) = n)
  · rw [toList_ofInt_of_nonneg hNonneg, integer?_digits]
    exact congrArg some (by omega)

/-! Zeros in front -/

theorem value_dropWhile_zero (ds : List Char) : value (ds.dropWhile (· == '0')) = value ds := by
  induction ds with
  | nil => rfl
  | cons c cs ih =>
    rw [List.dropWhile_cons]
    split
    · rename_i hZero
      rw [eq_of_beq hZero, ih]
      rfl
    · rfl

theorem value_cons (c : Char) (cs : List Char) :
    value (c :: cs) = 10 ^ cs.length * digit c + value cs := by
  rw [← List.singleton_append, value_append]
  simp [value]

theorem pow_length_le_value {c : Char} {cs : List Char} (hDigit : c.isDigit = true)
    (hNonzero : c ≠ '0') : 10 ^ cs.length ≤ value (c :: cs) := by
  have hBounds : '0'.toNat ≤ c.toNat := by
    simp only [Char.isDigit, Bool.and_eq_true, decide_eq_true_eq] at hDigit
    exact hDigit.1
  have hFirst : 0 < digit c := by
    have hOther : c.toNat ≠ '0'.toNat := fun h => hNonzero (Char.toNat_inj.mp h)
    rw [digit]
    omega
  have := Nat.mul_le_mul_left (10 ^ cs.length) hFirst
  rw [value_cons]
  omega

theorem value_lt_pow_length {ds : List Char} (h : ∀ c ∈ ds, c.isDigit = true) :
    value ds < 10 ^ ds.length := by
  induction ds with
  | nil => exact Nat.one_pos
  | cons c cs ih =>
    obtain ⟨hDigit, hRest⟩ := List.forall_mem_cons.mp h
    have hFirst : digit c ≤ 9 := by
      have hNine : c.toNat ≤ '9'.toNat := by
        simp only [Char.isDigit, Bool.and_eq_true, decide_eq_true_eq] at hDigit
        exact hDigit.2
      have hCodes : '9'.toNat = '0'.toNat + 9 := rfl
      rw [digit]
      omega
    have := Nat.mul_le_mul_left (10 ^ cs.length) hFirst
    have := ih hRest
    rw [value_cons, List.length_cons, Nat.pow_succ]
    omega

theorem isDigit_of_mem_padded {width n : Nat} {c : Char} (h : c ∈ padded width n) :
    c.isDigit = true := by
  obtain h | h := List.mem_append.mp h
  · rw [(List.mem_replicate.mp h).2]
    decide
  · exact isDigit_of_mem_digits h

@[simp] theorem value_padded (width n : Nat) : value (padded width n) = n := by
  rw [padded, value_append, value_zeros, value_digits, Nat.mul_zero, Nat.zero_add]

theorem length_padded {width n : Nat} (hWidth : 0 < width) (h : n < 10 ^ width) :
    (padded width n).length = width := by
  have hLength : (digits n).length ≤ width :=
    (Nat.length_toDigits_le_iff (by decide) hWidth).mpr h
  rw [padded, List.length_append, List.length_replicate]
  omega

end Numeral

namespace Hex

theorem digit?_digit (n : Nat) : digit? (digit n) = some (n % 16) := by
  have hAll : ∀ k < 16, digit? (Nat.digitChar k) = some k := by decide
  exact hAll (n % 16) (Nat.mod_lt n (by decide))

theorem length_padded (width n : Nat) : (padded width n).length = width := by
  induction width generalizing n with
  | zero => rfl
  | succ width ih => rw [padded, List.length_append, ih, List.length_singleton]

theorem natural?_concat (cs : List Char) (c : Char) :
    natural? (cs ++ [c]) = (natural? cs).bind fun n => (digit? c).map (16 * n + ·) := by
  simp [natural?, List.foldlM_append]

theorem natural?_padded {width n : Nat} (h : n < 16 ^ width) :
    natural? (padded width n) = some n := by
  induction width generalizing n with
  | zero =>
    obtain rfl : n = 0 := by omega
    rfl
  | succ width ih =>
    have hHigh : n / 16 < 16 ^ width := by
      rw [Nat.pow_succ] at h
      omega
    rw [padded, natural?_concat, ih hHigh, digit?_digit, Option.bind_some, Option.map_some,
      Nat.div_add_mod]

end Hex

end RelPipe.Text
