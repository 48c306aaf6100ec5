import Mathlib.Tactic.Ring
import RelPipe.Calendar.Moment
import RelPipe.Proofs.Text.Numeral
import RelPipe.Proofs.Text.Trimming
import RelPipe.Rows.Convert

/-!
The spans of time that texts and counts of ticks stand for. A grammar says which texts denote a span
and which span that is; the reader accepts those texts and no others, and reads back what is written
for a count of ticks.
-/

namespace RelPipe

set_option autoImplicit false

namespace TimeSpan

open Text Calendar

/-! Texts of spans -/

/-- `cs` spells `n`, which is below `limit`. Signs and zeros in front are allowed. -/
def Spells (limit : Int) (cs : List Char) (n : Int) : Prop :=
  ∃ k : Int64, Numeral.int64? cs = some k ∧ k.toInt = n ∧ 0 ≤ n ∧ n < limit

/-- Digits behind the point of the seconds, and the part of a second that they make. -/
structure Fraction (digits : List Char) (nanos : Int) : Prop where
  ne_nil : digits ≠ []
  length_le : digits.length ≤ 7
  isDigit : ∀ c ∈ digits, c.isDigit = true
  scaled : nanos * 10 ^ digits.length = Numeral.value digits * second

inductive Seconds : List Char → Int → Prop where
  | whole {s : List Char} {n : Int} (hs : Spells 60 s n) : Seconds s (n * second)
  | fractional {s f : List Char} {n nanos : Int} (hs : Spells 60 s n) (hf : Fraction f nanos) :
    Seconds (s ++ '.' :: f) (n * second + nanos)

/-- Minutes, with or without seconds. -/
inductive Minutes : List Char → Int → Prop where
  | alone {m : List Char} {n : Int} (hm : Spells 60 m n) : Minutes m (n * minute)
  | withSeconds {m s : List Char} {n nanos : Int} (hm : Spells 60 m n) (hs : Seconds s nanos) :
    Minutes (m ++ ':' :: s) (n * minute + nanos)

/-- Hours, with or without days. -/
inductive Hours : List Char → Int → Prop where
  | alone {h : List Char} {n : Int} (hh : Spells 24 h n) : Hours h (n * hour)
  | withDays {d h : List Char} {days n : Int} (hd : Spells (maxDays + 1) d days)
    (hh : Spells 24 h n) : Hours (d ++ '.' :: h) (days * day + n * hour)

/-- A number of days, or a time of day with optional parts. -/
inductive Unsigned : List Char → Int → Prop where
  | days {d : List Char} {n : Int} (hd : Spells (maxDays + 1) d n) : Unsigned d (n * day)
  | clock {h m : List Char} {hours minutes : Int} (hh : Hours h hours) (hm : Minutes m minutes) :
    Unsigned (h ++ ':' :: m) (hours + minutes)

/-- The text denotes the span, in nanoseconds. White space around it does not count, and one minus
sign in front of it negates the span. -/
inductive Denotes (s : String) : Int → Prop where
  | negative {cs : List Char} {nanos : Int} (h : trimBlank s = '-' :: cs)
    (hSpan : Unsigned cs nanos) : Denotes s (-nanos)
  | positive {nanos : Int} (h : (trimBlank s).head? ≠ some '-')
    (hSpan : Unsigned (trimBlank s) nanos) : Denotes s nanos

/-! Reading -/

section

variable {cs : List Char} {limit n nanos : Int}

theorem Spells.ofInteger (h : Numeral.integer? cs = some n) (hLow : 0 ≤ n) (hHigh : n < limit)
    (hLimit : limit ≤ 0x8000000000000000) : Spells limit cs n := by
  have hInt : (Int64.ofInt n).toInt = n := Int64.toInt_ofInt_of_le (by omega) (by omega)
  exact ⟨.ofInt n, Numeral.int64?_eq_some_iff.mpr (hInt.symm ▸ h), hInt, hLow, hHigh⟩

theorem Spells.not_mem (h : Spells limit cs n) {c : Char} (hc : c = '.' ∨ c = ':') : c ∉ cs := by
  obtain ⟨k, hk, -⟩ := h
  intro hMem
  have hChars := Numeral.isDigit_or_of_integer? (Numeral.int64?_eq_some_iff.mp hk) hMem
  obtain rfl | rfl := hc
  · exact absurd hChars (by decide)
  · exact absurd hChars (by decide)

theorem below?_eq_some_iff : below? limit cs = some n ↔ Spells limit cs n := by
  constructor
  · intro h
    obtain ⟨k, hk, h⟩ := Option.bind_eq_some_iff.mp h
    split at h
    · rename_i hRange
      cases h
      exact ⟨k, hk, rfl, hRange⟩
    · cases h
  · rintro ⟨k, hk, rfl, hRange⟩
    rw [below?, hk, Option.bind_some, if_pos hRange]

theorem days?_eq_some_iff :
    days? cs = some nanos ↔ ∃ n, Spells (maxDays + 1) cs n ∧ nanos = n * day := by
  constructor
  · intro h
    obtain ⟨k, hk, h⟩ := Option.bind_eq_some_iff.mp h
    split at h
    · rename_i hRange
      cases h
      exact ⟨k.toInt, ⟨k, hk, rfl, hRange.1, by omega⟩, rfl⟩
    · cases h
  · rintro ⟨n, ⟨k, hk, rfl, hLow, hHigh⟩, rfl⟩
    rw [days?, hk, Option.bind_some, if_pos ⟨hLow, by omega⟩]

/-- Splitting ticks into microseconds and the rest loses nothing, also below zero, where both are
rounded toward zero. -/
theorem ofTicks_eq (ticks : Int64) : ofTicks ticks = 100 * ticks.toInt := by
  have hQuotient : (ticks / 10).toInt = ticks.toInt.tdiv 10 :=
    Int64.toInt_div_of_ne_right ticks 10 (by decide)
  have hRest : (ticks % 10).toInt = ticks.toInt.tmod 10 := Int64.toInt_mod ticks 10
  have hBelow : ticks.toInt.tmod 10 < 10 := Int.tmod_lt_of_pos _ (by decide)
  have hAbove : -10 < ticks.toInt.tmod 10 := Int.lt_tmod_of_pos _ (by decide)
  have hNanos : (ticks % 10 * 100).toInt = ticks.toInt.tmod 10 * 100 := by
    rw [Int64.toInt_mul, hRest]
    exact Int.bmod_eq_of_le (by simp; omega) (by simp; omega)
  have hSplit := Int.mul_tdiv_add_tmod ticks.toInt 10
  rw [ofTicks, hQuotient, hNanos, microsecond]
  omega

theorem scaled_iff {width v : Nat} (h : width ≤ 7) :
    nanos * 10 ^ width = v * second ↔ nanos = 100 * (10 ^ (7 - width) * v : Nat) := by
  have hScale : (10 : Int) ^ (7 - width) * 10 ^ width = 10000000 := by
    rw [← Int.pow_add, Nat.sub_add_cancel h]
    rfl
  have hPositive : (10 : Int) ^ width ≠ 0 := Int.pow_ne_zero (by decide)
  have hTicks : 100 * ((10 ^ (7 - width) * v : Nat) : Int) * 10 ^ width = v * second := by
    calc 100 * ((10 ^ (7 - width) * v : Nat) : Int) * 10 ^ width
        = 100 * v * (10 ^ (7 - width) * 10 ^ width) := by push_cast; ring
      _ = v * second := by
        rw [hScale, second, microsecond]
        omega
  rw [← hTicks]
  exact ⟨Int.eq_of_mul_eq_mul_right hPositive, fun hNanos => hNanos ▸ rfl⟩

theorem int64?_padded (hSome : cs ≠ []) (hLength : cs.length ≤ 7)
    (hDigits : ∀ c ∈ cs, c.isDigit = true) :
    ∃ k : Int64, Numeral.int64? (cs ++ List.replicate (7 - cs.length) '0') = some k ∧
      k.toInt = (10 ^ (7 - cs.length) * Numeral.value cs : Nat) := by
  have hPadded : ∀ c ∈ cs ++ List.replicate (7 - cs.length) '0', c.isDigit = true := by
    intro c hc
    obtain hc | hc := List.mem_append.mp hc
    · exact hDigits c hc
    · rw [List.eq_of_mem_replicate hc]
      decide
  have hValue : Numeral.value (cs ++ List.replicate (7 - cs.length) '0') =
      10 ^ (7 - cs.length) * Numeral.value cs := by
    rw [Numeral.value_append, Numeral.value_zeros, List.length_replicate, Nat.add_zero]
  have hRead := Numeral.integer?_of_digits (List.append_ne_nil_of_left_ne_nil hSome _) hPadded
  have hSmall := Numeral.value_lt_pow_length hPadded
  have hSeven : (cs ++ List.replicate (7 - cs.length) '0').length = 7 := by
    rw [List.length_append, List.length_replicate]
    omega
  rw [hSeven] at hSmall
  rw [hValue] at hRead hSmall
  obtain ⟨k, hk, hInt, -⟩ : Spells 10000000 _ _ :=
    .ofInteger hRead (Int.natCast_nonneg _) (by omega) (by decide)
  exact ⟨k, hk, hInt⟩

theorem fraction?_eq_some_iff : fraction? cs = some nanos ↔ Fraction cs nanos := by
  rw [fraction?]
  split
  · rename_i hBad
    refine ⟨nofun, fun ⟨hSome, hLength, hDigits, _⟩ => absurd hBad ?_⟩
    simpa [hSome] using ⟨hLength, hDigits⟩
  · rename_i hGood
    simp only [Bool.or_eq_true, not_or, List.isEmpty_iff, decide_eq_true_eq, Nat.not_lt,
      Bool.not_eq_true', Bool.not_eq_false, List.all_eq_true] at hGood
    obtain ⟨⟨hSome, hLength⟩, hDigits⟩ := hGood
    obtain ⟨k, hk, hTicks⟩ := int64?_padded hSome hLength hDigits
    rw [hk, Option.map_some, Option.some.injEq, ofTicks_eq, hTicks]
    constructor
    · rintro rfl
      exact ⟨hSome, hLength, hDigits, (scaled_iff hLength).mpr rfl⟩
    · exact fun h => ((scaled_iff hLength).mp h.scaled).symm

/-- A text that is cut where it can be is read in two parts, or as a whole if no part may have what
it is cut at. -/
theorem cut_eq_some_iff {α β γ : Type} {sep : Char} {first : List Char → Option α}
    {second : List Char → Option β} {whole : List Char → Option γ} {join : α → β → γ} {z : γ}
    (hFirst : ∀ a x, first a = some x → sep ∉ a) (hWhole : ∀ a x, whole a = some x → sep ∉ a) :
    (match cutAt? sep cs with
      | some (a, b) => do
        let x ← first a
        let y ← second b
        return join x y
      | none => whole cs) = some z ↔
      whole cs = some z ∨
        ∃ a b x y, cs = a ++ sep :: b ∧ first a = some x ∧ second b = some y ∧ z = join x y := by
  constructor
  · intro h
    split at h
    · rename_i a b hCut
      obtain ⟨x, hx, h⟩ := Option.bind_eq_some_iff.mp h
      obtain ⟨y, hy, h⟩ := Option.bind_eq_some_iff.mp h
      cases h
      exact .inr ⟨a, b, x, y, eq_append_of_cutAt? hCut, hx, hy, rfl⟩
    · exact .inl h
  · rintro (h | ⟨a, b, x, y, rfl, hx, hy, rfl⟩)
    · rw [cutAt?_of_not_mem (hWhole cs z h)]
      exact h
    · -- `a` is free of `sep`, so the first `sep` of the text is the one behind `a`.
      rw [cutAt?_append (hFirst a x hx)]
      simp only [hx, hy]
      rfl

theorem not_mem_of_below? {c : Char} (hc : c = '.' ∨ c = ':') (limit scale : Int) :
    ∀ a x, (below? limit a).map (· * scale) = some x → c ∉ a := by
  intro a x h
  obtain ⟨n, hn, -⟩ := Option.map_eq_some_iff.mp h
  exact (below?_eq_some_iff.mp hn).not_mem hc

theorem seconds?_eq_some_iff : seconds? cs = some nanos ↔ Seconds cs nanos := by
  refine (cut_eq_some_iff (fun _ _ h => (below?_eq_some_iff.mp h).not_mem (.inl rfl))
    (not_mem_of_below? (.inl rfl) 60 second)).trans ⟨?_, ?_⟩
  · rintro (h | ⟨s, f, n, x, rfl, hn, hx, rfl⟩)
    · obtain ⟨n, hn, rfl⟩ := Option.map_eq_some_iff.mp h
      exact .whole (below?_eq_some_iff.mp hn)
    · exact .fractional (below?_eq_some_iff.mp hn) (fraction?_eq_some_iff.mp hx)
  · rintro (hs | ⟨hs, hf⟩)
    · exact .inl (Option.map_eq_some_iff.mpr ⟨_, below?_eq_some_iff.mpr hs, rfl⟩)
    · exact .inr ⟨_, _, _, _, rfl, below?_eq_some_iff.mpr hs, fraction?_eq_some_iff.mpr hf, rfl⟩

theorem minutes?_eq_some_iff : minutes? cs = some nanos ↔ Minutes cs nanos := by
  refine (cut_eq_some_iff (fun _ _ h => (below?_eq_some_iff.mp h).not_mem (.inr rfl))
    (not_mem_of_below? (.inr rfl) 60 minute)).trans ⟨?_, ?_⟩
  · rintro (h | ⟨m, s, n, x, rfl, hn, hx, rfl⟩)
    · obtain ⟨n, hn, rfl⟩ := Option.map_eq_some_iff.mp h
      exact .alone (below?_eq_some_iff.mp hn)
    · exact .withSeconds (below?_eq_some_iff.mp hn) (seconds?_eq_some_iff.mp hx)
  · rintro (hm | ⟨hm, hs⟩)
    · exact .inl (Option.map_eq_some_iff.mpr ⟨_, below?_eq_some_iff.mpr hm, rfl⟩)
    · exact .inr ⟨_, _, _, _, rfl, below?_eq_some_iff.mpr hm, seconds?_eq_some_iff.mpr hs, rfl⟩

theorem not_mem_of_days? {c : Char} (hc : c = '.' ∨ c = ':') :
    ∀ a x, days? a = some x → c ∉ a := by
  intro a x h
  obtain ⟨n, hn, -⟩ := days?_eq_some_iff.mp h
  exact hn.not_mem hc

theorem hours?_eq_some_iff : hours? cs = some nanos ↔ Hours cs nanos := by
  refine (cut_eq_some_iff (not_mem_of_days? (.inl rfl))
    (not_mem_of_below? (.inl rfl) 24 hour)).trans ⟨?_, ?_⟩
  · rintro (h | ⟨d, h, x, n, rfl, hx, hn, rfl⟩)
    · obtain ⟨n, hn, rfl⟩ := Option.map_eq_some_iff.mp h
      exact .alone (below?_eq_some_iff.mp hn)
    · obtain ⟨days, hDays, rfl⟩ := days?_eq_some_iff.mp hx
      exact .withDays hDays (below?_eq_some_iff.mp hn)
  · rintro (hh | ⟨hd, hh⟩)
    · exact .inl (Option.map_eq_some_iff.mpr ⟨_, below?_eq_some_iff.mpr hh, rfl⟩)
    · exact .inr ⟨_, _, _, _, rfl, days?_eq_some_iff.mpr ⟨_, hd, rfl⟩,
        below?_eq_some_iff.mpr hh, rfl⟩

theorem Hours.not_mem (h : Hours cs nanos) : ':' ∉ cs := by
  obtain hh | ⟨hd, hh⟩ := h
  · exact hh.not_mem (.inr rfl)
  · simp [hd.not_mem (.inr rfl), hh.not_mem (.inr rfl)]

/-- The first colon decides: before it stand hours, and without one the text is a number of days. -/
theorem unsigned?_eq_some_iff : unsigned? cs = some nanos ↔ Unsigned cs nanos := by
  refine (cut_eq_some_iff (fun _ _ h => (hours?_eq_some_iff.mp h).not_mem)
    (not_mem_of_days? (.inr rfl))).trans ⟨?_, ?_⟩
  · rintro (h | ⟨h, m, x, y, rfl, hx, hy, rfl⟩)
    · obtain ⟨n, hn, rfl⟩ := days?_eq_some_iff.mp h
      exact .days hn
    · exact .clock (hours?_eq_some_iff.mp hx) (minutes?_eq_some_iff.mp hy)
  · rintro (hd | ⟨hh, hm⟩)
    · exact .inl (days?_eq_some_iff.mpr ⟨_, hd, rfl⟩)
    · exact .inr ⟨_, _, _, _, rfl, hours?_eq_some_iff.mpr hh, minutes?_eq_some_iff.mpr hm, rfl⟩

end

/-- The reader accepts the texts that denote a span, and reads that span. -/
theorem ofText?_eq_some_iff {s : String} {nanos : Int} :
    ofText? s = some nanos ↔ Denotes s nanos := by
  constructor
  · intro h
    rw [ofText?] at h
    split at h
    · rename_i cs hMinus
      obtain ⟨x, hx, rfl⟩ := Option.map_eq_some_iff.mp h
      exact .negative hMinus (unsigned?_eq_some_iff.mp hx)
    · rename_i hNoMinus
      refine .positive (fun hHead => ?_) (unsigned?_eq_some_iff.mp h)
      obtain ⟨cs, hcs⟩ := List.head?_eq_some_iff.mp hHead
      exact hNoMinus cs hcs
  · rintro (⟨hMinus, hSpan⟩ | ⟨hNoMinus, hSpan⟩)
    · rw [ofText?, hMinus]
      exact congrArg (Option.map (- ·)) (unsigned?_eq_some_iff.mpr hSpan)
    · rw [ofText?]
      split
      · rename_i cs hMinus
        exact absurd (congrArg List.head? hMinus) hNoMinus
      · exact unsigned?_eq_some_iff.mpr hSpan

/-! Writing -/

/-- Days, hours, minutes, seconds and the seven digits behind them, for a number of ticks. -/
def digitsOfTicks (n : Nat) : List Char :=
  (Numeral.digits (n / 864000000000) ++ '.' :: two (n / 36000000000 % 24)) ++
    ':' :: (two (n / 600000000 % 60) ++
      ':' :: (two (n / 10000000 % 60) ++ '.' :: Numeral.padded 7 (n % 10000000)))

/-- The canonical text of a count of ticks, `[-]d.hh:mm:ss.fffffff`. -/
def text (ticks : Int64) : String :=
  String.ofList ((if ticks.toInt < 0 then ['-'] else []) ++ digitsOfTicks ticks.toInt.natAbs)

theorem spells_two {limit n : Nat} (h : n < limit) (hLimit : limit ≤ 100) :
    Spells limit (two n) n := by
  have hSome : two n ≠ [] := by
    rw [← List.length_pos_iff, two, Numeral.length_padded (by decide) (by omega)]
    decide
  have hRead := Numeral.integer?_of_digits hSome fun c hc => Numeral.isDigit_of_mem_padded hc
  rw [two, Numeral.value_padded] at hRead
  exact .ofInteger hRead (by omega) (by omega) (by omega)

theorem fraction_padded {n : Nat} (h : n < 10000000) :
    Fraction (Numeral.padded 7 n) (100 * n) := by
  have hLength : (Numeral.padded 7 n).length = 7 := Numeral.length_padded (by decide) h
  refine ⟨List.ne_nil_of_length_pos (by omega), hLength.le,
    fun c hc => Numeral.isDigit_of_mem_padded hc, ?_⟩
  rw [hLength, Numeral.value_padded, second, microsecond]
  omega

theorem unsigned_digitsOfTicks {n : Nat} (h : n ≤ 0x8000000000000000) :
    Unsigned (digitsOfTicks n) (100 * n) := by
  have hDays : Spells (maxDays + 1) (Numeral.digits (n / 864000000000))
      (n / 864000000000 : Nat) :=
    .ofInteger (Numeral.integer?_digits _) (by omega) (by rw [maxDays]; omega) (by decide)
  have hSpan := Unsigned.clock
    (.withDays hDays (spells_two (Nat.mod_lt (n / 36000000000) (by decide : 0 < 24)) (by decide)))
    (.withSeconds (spells_two (Nat.mod_lt (n / 600000000) (by decide : 0 < 60)) (by decide))
      (.fractional (spells_two (Nat.mod_lt (n / 10000000) (by decide : 0 < 60)) (by decide))
        (fraction_padded (Nat.mod_lt n (by decide : 0 < 10000000)))))
  have hSum : ((n / 864000000000 : Nat) : Int) * day + (n / 36000000000 % 24 : Nat) * hour +
      ((n / 600000000 % 60 : Nat) * minute + ((n / 10000000 % 60 : Nat) * second +
        100 * (n % 10000000 : Nat))) = 100 * n := by
    simp only [day, hour, minute, second, microsecond]
    omega
  exact hSum ▸ hSpan

theorem mem_digitsOfTicks {n : Nat} {c : Char} (h : c ∈ digitsOfTicks n) :
    c.isDigit = true ∨ c = '.' ∨ c = ':' := by
  simp only [digitsOfTicks, two, List.mem_append, List.mem_cons] at h
  obtain (h | rfl | h) | rfl | h | rfl | h | rfl | h := h
  · exact .inl (Numeral.isDigit_of_mem_digits h)
  · exact .inr (.inl rfl)
  · exact .inl (Numeral.isDigit_of_mem_padded h)
  · exact .inr (.inr rfl)
  · exact .inl (Numeral.isDigit_of_mem_padded h)
  · exact .inr (.inr rfl)
  · exact .inl (Numeral.isDigit_of_mem_padded h)
  · exact .inr (.inl rfl)
  · exact .inl (Numeral.isDigit_of_mem_padded h)

theorem isBlank_of_isDigit {c : Char} (h : c.isDigit = true) : isBlank c = false := by
  have hAll : ∀ n < 58, 48 ≤ n → inside n blankBounds = false := by decide
  simp only [Char.isDigit, Bool.and_eq_true, decide_eq_true_eq] at h
  have hLow : 48 ≤ c.toNat := h.1
  have hHigh : c.toNat ≤ 57 := h.2
  exact hAll c.toNat (by omega) hLow

theorem trimBlank_text (ticks : Int64) :
    trimBlank (text ticks) =
      (if ticks.toInt < 0 then ['-'] else []) ++ digitsOfTicks ticks.toInt.natAbs := by
  rw [trimBlank, text, String.toList_ofList]
  refine trimBoth_of_none fun c hc => ?_
  obtain hc | hc := List.mem_append.mp hc
  · split at hc
    · rw [List.mem_singleton.mp hc]
      decide
    · cases hc
  · obtain hDigit | rfl | rfl := mem_digitsOfTicks hc
    · exact isBlank_of_isDigit hDigit
    · decide
    · decide

/-- The canonical text of a count of ticks denotes these ticks, to the limits of the count. -/
theorem denotes_text (ticks : Int64) : Denotes (text ticks) (100 * ticks.toInt) := by
  have hLow := ticks.le_toInt
  have hHigh := ticks.toInt_lt
  have hSpan := unsigned_digitsOfTicks (n := ticks.toInt.natAbs) (by omega)
  have hText := trimBlank_text ticks
  split at hText
  · rename_i hNegative
    have hNanos : 100 * ticks.toInt = -(100 * (ticks.toInt.natAbs : Int)) := by omega
    rw [hNanos]
    exact .negative hText hSpan
  · rename_i hNonneg
    have hNanos : 100 * ticks.toInt = 100 * (ticks.toInt.natAbs : Int) := by omega
    obtain ⟨c, cs, hDigits, hDigit⟩ := Numeral.exists_digits (ticks.toInt.natAbs / 864000000000)
    rw [List.nil_append] at hText
    rw [hNanos]
    refine .positive (fun hHead => ?_) (hText ▸ hSpan)
    -- The text begins with a digit of the days, which is no minus sign.
    rw [hText, digitsOfTicks, hDigits] at hHead
    cases hHead
    revert hDigit
    decide

example : text (-9223372036854775808) = "-10675199.02:48:05.4775808" := by decide +kernel

end TimeSpan

namespace Value

/-- Strings and counts of ticks as spans of time. A string is the span that it denotes, or the empty
span if it denotes none; a tick is 100 nanoseconds; and the canonical text of a count of ticks is
the same span as the count. -/
theorem convert_timeSpan :
    (∀ s : String, convert (.string s) .timeSpan = .timeSpan ((TimeSpan.ofText? s).getD 0) ∧
      ∀ nanos, TimeSpan.ofText? s = some nanos ↔ TimeSpan.Denotes s nanos) ∧
    ∀ ticks : Int64, convert (.int64 ticks) .timeSpan = .timeSpan (100 * ticks.toInt) ∧
      convert (.string (TimeSpan.text ticks)) .timeSpan = convert (.int64 ticks) .timeSpan := by
  have hString : ∀ s : String,
      convert (.string s) .timeSpan = .timeSpan ((TimeSpan.ofText? s).getD 0) := fun _ => rfl
  have hTicks : ∀ ticks : Int64,
      convert (.int64 ticks) .timeSpan = .timeSpan (100 * ticks.toInt) := fun ticks =>
    congrArg Cell.timeSpan (TimeSpan.ofTicks_eq ticks)
  refine ⟨fun s => ⟨hString s, fun nanos => TimeSpan.ofText?_eq_some_iff⟩, fun ticks =>
    ⟨hTicks ticks, ?_⟩⟩
  rw [hTicks, hString, TimeSpan.ofText?_eq_some_iff.mpr (TimeSpan.denotes_text ticks)]
  rfl

end Value

end RelPipe
