import Mathlib.Data.List.TakeWhile
import RelPipe.Calendar.Rfc3339
import RelPipe.Proofs.Calendar.Date
import RelPipe.Proofs.Text.Numeral

/-!
An instant is read from its text as it was written, to the millisecond, also before 1970. What is
read lies in the years of four digits.
-/

namespace RelPipe.Calendar

set_option autoImplicit false

open Text

namespace Scan

theorem number?_padded {width n : Nat} (hWidth : 0 < width) (h : n < 10 ^ width)
    (rest : List Char) :
    number? width width (Numeral.padded width n ++ rest) = some (n, rest) := by
  have hLength := Numeral.length_padded hWidth h
  have hTake : (Numeral.padded width n ++ rest).take width = Numeral.padded width n :=
    List.take_left' hLength
  have hDigits : (Numeral.padded width n).takeWhile Char.isDigit = Numeral.padded width n :=
    List.takeWhile_eq_self_iff.mpr fun c hc => Numeral.isDigit_of_mem_padded hc
  simp only [number?, hTake, hDigits, hLength, Nat.lt_irrefl, if_false, Numeral.value_padded,
    List.drop_left' hLength]

theorem number?_two {n : Nat} (h : n < 100) (rest : List Char) :
    number? 2 2 (two n ++ rest) = some (n, rest) :=
  number?_padded (by decide) h rest

theorem char?_cons (c : Char) (cs : List Char) : char? c (c :: cs) = some cs := if_pos rfl

end Scan

namespace Rfc3339

/-! Fractions -/

theorem exists_zeros (nanos : Nat) :
    ∃ n, Numeral.padded 9 nanos = places nanos ++ List.replicate n '0' := by
  have hZeros : ((Numeral.padded 9 nanos).reverse.takeWhile (· == '0')).reverse =
      List.replicate ((Numeral.padded 9 nanos).reverse.takeWhile (· == '0')).length '0' := by
    rw [← List.length_reverse]
    refine List.eq_replicate_of_mem fun c hc => ?_
    exact eq_of_beq (List.mem_takeWhile_imp (p := (· == '0')) (List.mem_reverse.mp hc))
  refine ⟨((Numeral.padded 9 nanos).reverse.takeWhile (· == '0')).length, ?_⟩
  rw [← hZeros, places, ← List.reverse_append, List.takeWhile_append_dropWhile,
    List.reverse_reverse]

theorem isDigit_of_mem_places {nanos : Nat} {c : Char} (h : c ∈ places nanos) :
    c.isDigit = true := by
  obtain ⟨n, hPadded⟩ := exists_zeros nanos
  have hMem : c ∈ Numeral.padded 9 nanos := by
    rw [hPadded]
    exact List.mem_append_left _ h
  exact Numeral.isDigit_of_mem_padded hMem

/-- The places that are left make up the number of nanoseconds with the zeros put back. -/
theorem exists_scale {nanos : Nat} (h : nanos < 1000000000) :
    ∃ n, (places nanos).length + n = 9 ∧ Numeral.value (places nanos) * Nat.pow 10 n = nanos := by
  obtain ⟨n, hPadded⟩ := exists_zeros nanos
  refine ⟨n, ?_, ?_⟩
  · have hNine : (Numeral.padded 9 nanos).length = 9 := Numeral.length_padded (by decide) h
    rw [hPadded, List.length_append, List.length_replicate] at hNine
    exact hNine
  · have hRead := Numeral.value_padded 9 nanos
    rw [hPadded, Numeral.value_append, Numeral.value_zeros, List.length_replicate] at hRead
    rw [Nat.mul_comm]
    exact hRead

theorem nanos?_places {nanos : Nat} (hNonzero : nanos ≠ 0) (h : nanos < 1000000000)
    (rest : List Char) : Scan.nanos? (places nanos ++ 'Z' :: rest) = some (nanos, 'Z' :: rest) := by
  obtain ⟨n, hLength, hValue⟩ := exists_scale h
  have hSome : (places nanos).isEmpty = false := by
    refine List.isEmpty_eq_false_iff.mpr fun hNone => hNonzero ?_
    rw [hNone] at hValue
    rw [← hValue]
    exact Nat.zero_mul _
  have hTake : (places nanos ++ 'Z' :: rest).takeWhile Char.isDigit = places nanos := by
    rw [List.takeWhile_append_of_pos fun c hc => isDigit_of_mem_places hc,
      List.takeWhile_cons_of_neg (by decide), List.append_nil]
  have hDrop : (places nanos ++ 'Z' :: rest).dropWhile Char.isDigit = 'Z' :: rest := by
    rw [List.dropWhile_append_of_pos fun c hc => isDigit_of_mem_places hc,
      List.dropWhile_cons_of_neg (by decide)]
  have hNine : (places nanos).take 9 = places nanos := List.take_of_length_le (by omega)
  have hScale : 9 - (places nanos).length = n := by omega
  simp only [Scan.nanos?, hTake, hDrop, hSome, hNine, hScale, hValue, Bool.false_eq_true,
    if_false]

def fraction (nanos : Nat) : List Char := if nanos = 0 then [] else '.' :: places nanos

theorem fraction?_fraction {nanos : Nat} (h : nanos < 1000000000) (rest : List Char) :
    Scan.fraction? (fraction nanos ++ 'Z' :: rest) = some (nanos, 'Z' :: rest) := by
  rw [fraction]
  split
  · rename_i hZero
    subst hZero
    rfl
  · rename_i hNonzero
    exact nanos?_places hNonzero h rest

/-! Dates and times of day -/

theorem date?_text {d : Date} (hValid : d.isValid = true) (hStart : 0 ≤ d.year)
    (hEnd : d.year ≤ 9999) (rest : List Char) :
    date? (Numeral.padded 4 d.year.toNat ++ '-' :: (two d.month ++ '-' :: (two d.day ++ rest))) =
      some (d, rest) := by
  obtain ⟨year, month, day⟩ := d
  simp only [Date.isValid, Bool.and_eq_true, decide_eq_true_eq] at hValid hStart hEnd
  obtain ⟨⟨⟨_, hMonth⟩, _⟩, hDay⟩ := hValid
  have hMonthLength : daysInMonth year month ≤ 31 := by
    unfold daysInMonth
    split
    · split <;> decide
    · split <;> decide
  have hYear : (year.toNat : Int) = year := Int.toNat_of_nonneg hStart
  have hDate : Date.ofParts? year.toNat month day = some ⟨year, month, day⟩ := by
    rw [hYear, Date.ofParts?]
    simp only [Date.isValid, Bool.and_eq_true, decide_eq_true_eq]
    rw [if_pos (by omega)]
  have hFour : year.toNat < 10 ^ 4 := by omega
  simp only [date?, Scan.number?_padded (by decide : 0 < 4) hFour, Scan.char?_cons,
    Scan.number?_two (by omega : month < 100), Scan.number?_two (by omega : day < 100), hDate,
    Option.bind_eq_bind, Option.bind_some]
  rfl

theorem clock?_text {c : Clock} (hSeconds : c.seconds < 86400) (hNanos : c.nanos < 1000000000) :
    clock? (two c.hour ++ ':' :: (two c.minute ++ ':' :: (two c.second ++
      (fraction c.nanos ++ ['Z'])))) = some (c, 0, []) := by
  obtain ⟨seconds, nanos⟩ := c
  simp only [Clock.hour, Clock.minute, Clock.second] at hSeconds hNanos ⊢
  have hClock : Clock.ofParts? (seconds / 3600) (seconds / 60 % 60) (seconds % 60) nanos =
      some ⟨seconds, nanos⟩ := by
    have hRange : ¬ (24 ≤ seconds / 3600 ∨ 60 ≤ seconds / 60 % 60 ∨ 61 ≤ seconds % 60 ∨
        1000000000 ≤ nanos) := by omega
    have hSum : 3600 * (seconds / 3600) + 60 * (seconds / 60 % 60) + seconds % 60 = seconds := by
      omega
    simp only [Clock.ofParts?, Bool.or_eq_true, decide_eq_true_eq, or_assoc]
    rw [if_neg hRange, if_neg (by omega), hSum]
  simp only [clock?, Scan.number?_two (by omega : seconds / 3600 < 100), Scan.char?_cons,
    Scan.number?_two (by omega : seconds / 60 % 60 < 100),
    Scan.number?_two (by omega : seconds % 60 < 100), fraction?_fraction hNanos, hClock,
    Option.bind_eq_bind, Option.bind_some]
  rfl

/-! Instants -/

theorem toInstant_ofInstant (i : Instant) : (Moment.ofInstant i).toInstant = i := by
  obtain ⟨seconds, nanos⟩ := i
  have hDay := Int.mul_fdiv_add_fmod seconds 86400
  have hRest : 0 ≤ seconds.fmod 86400 := Int.fmod_nonneg_of_pos _ (by decide)
  simp only [Moment.ofInstant, Moment.toInstant, Date.toDays_ofDays, Int.toNat_of_nonneg hRest,
    hDay]

theorem toNanos_ofMillis (ms : Int) : (Instant.ofMillis ms).toNanos = 1000000 * ms := by
  have hSecond := Int.mul_fdiv_add_fmod ms 1000
  have hRest : 0 ≤ ms.fmod 1000 := Int.fmod_nonneg_of_pos _ (by decide)
  simp only [Instant.ofMillis, Instant.toNanos]
  omega

def written (m : Moment) : List Char :=
  Numeral.padded 4 m.date.year.toNat ++ '-' :: (two m.date.month ++ '-' :: (two m.date.day ++
    'T' :: (two m.clock.hour ++ ':' :: (two m.clock.minute ++ ':' :: (two m.clock.second ++
      (fraction m.clock.nanos ++ ['Z']))))))

def yearOfMillis (ms : Int) : Int := (Moment.ofInstant (.ofMillis ms)).date.year

theorem ofMillis?_eq {ms : Int} (hStart : 0 ≤ yearOfMillis ms) (hEnd : yearOfMillis ms ≤ 9999) :
    ofMillis? ms = some (String.ofList (written (Moment.ofInstant (.ofMillis ms)))) := by
  have hYear : ¬ (decide ((Moment.ofInstant (.ofMillis ms)).date.year < 0) ||
      decide (9999 < (Moment.ofInstant (.ofMillis ms)).date.year)) = true := by
    simpa [yearOfMillis] using ⟨hStart, hEnd⟩
  rw [ofMillis?]
  dsimp only
  rw [if_neg hYear]
  simp only [written, fraction, List.append_assoc, List.cons_append]

theorem millis?_written {m : Moment} (hDate : m.date.isValid = true) (hStart : 0 ≤ m.date.year)
    (hEnd : m.date.year ≤ 9999) (hSeconds : m.clock.seconds < 86400)
    (hNanos : m.clock.nanos < 1000000000) :
    millis? (written m) = some (m.toInstant.toNanos.tdiv 1000000) := by
  have hSeparator : ¬ 128 ≤ 'T'.toNat := by decide
  have hOrdinary : m.toInstant.nanos < 1000000000 := hNanos
  rw [millis?, written, date?_text hDate hStart hEnd]
  simp only [Option.bind_eq_bind, Option.bind_some, if_neg hSeparator,
    clock?_text hSeconds hNanos, List.isEmpty_nil, Bool.not_true, Bool.false_eq_true, if_false,
    Int.sub_zero, settle?]
  rw [if_pos hOrdinary]
  rfl

/-- In the years from 0 to 9999 an instant has a text, and is read from it. -/
theorem exists_ofMillis? {ms : Int} (hStart : 0 ≤ yearOfMillis ms) (hEnd : yearOfMillis ms ≤ 9999) :
    ∃ s, ofMillis? ms = some s ∧ millis? s.toList = some ms := by
  have hSeconds : (Moment.ofInstant (.ofMillis ms)).clock.seconds < 86400 := by
    have hDay := Int.fmod_lt_of_pos (Instant.ofMillis ms).seconds (by decide : (0 : Int) < 86400)
    simp only [Moment.ofInstant]
    omega
  have hNanos : (Moment.ofInstant (.ofMillis ms)).clock.nanos < 1000000000 := by
    have hSecond := Int.fmod_lt_of_pos ms (by decide : (0 : Int) < 1000)
    simp only [Moment.ofInstant, Instant.ofMillis]
    omega
  refine ⟨_, ofMillis?_eq hStart hEnd, ?_⟩
  rw [String.toList_ofList, millis?_written (Date.isValid_ofDays _) hStart hEnd hSeconds hNanos,
    toInstant_ofInstant, toNanos_ofMillis, Int.mul_tdiv_cancel_left _ (by decide)]

/-! The range of what is read -/

theorem lt_of_number? {low high n : Nat} {cs rest : List Char}
    (h : Scan.number? low high cs = some (n, rest)) : n < 10 ^ high := by
  unfold Scan.number? at h
  dsimp only at h
  split at h
  · cases h
  · cases h
    have hDigits : ∀ c ∈ (cs.take high).takeWhile Char.isDigit, c.isDigit = true :=
      fun c hc => List.mem_takeWhile_imp hc
    have hLength : ((cs.take high).takeWhile Char.isDigit).length ≤ high :=
      Nat.le_trans (List.takeWhile_sublist _).length_le (List.length_take_le ..)
    exact Nat.lt_of_lt_of_le (Numeral.value_lt_pow_length hDigits)
      (Nat.pow_le_pow_right (by decide) hLength)

theorem natAbs_toDays_le {d : Date} (hYear : 0 ≤ d.year ∧ d.year ≤ 9999) (hMonth : d.month < 100)
    (hDay : d.day < 100) : d.toDays.natAbs ≤ 4000000 := by
  rw [Date.toDays]
  simp only [Int.fdiv_eq_ediv_of_nonneg _ (by decide : (0 : Int) ≤ 400)]
  split <;> split <;> omega

theorem natAbs_le_of_date? {d : Date} {cs rest : List Char} (h : date? cs = some (d, rest)) :
    d.toDays.natAbs ≤ 4000000 := by
  simp only [date?, Option.bind_eq_bind, Option.bind_eq_some_iff] at h
  obtain ⟨⟨year, _⟩, hYear, _, _, ⟨month, _⟩, hMonth, _, _, ⟨day, _⟩, hDay, date, hDate, h⟩ := h
  cases h
  have hYearBound := lt_of_number? hYear
  have hMonthBound := lt_of_number? hMonth
  have hDayBound := lt_of_number? hDay
  rw [Date.ofParts?] at hDate
  split at hDate
  · cases hDate
    exact natAbs_toDays_le (by dsimp only; omega) hMonthBound hDayBound
  · cases hDate

theorem natAbs_le_of_offset? {offset : Int} {cs rest : List Char}
    (h : offset? cs = some (offset, rest)) : offset.natAbs ≤ 86400 := by
  unfold offset? at h
  split at h
  · cases h
  · split at h
    · cases h
      decide
    · split at h
      · simp only [Option.bind_eq_bind, Option.bind_eq_some_iff] at h
        obtain ⟨⟨hours, _⟩, _, _, _, ⟨minutes, _⟩, _, h⟩ := h
        dsimp only at h
        split at h
        · cases h
        · rename_i hRange
          simp only [Bool.or_eq_true, decide_eq_true_eq, not_or] at hRange
          cases h
          split <;> omega
      · cases h

theorem bounds_of_clock? {clock : Clock} {offset : Int} {cs rest : List Char}
    (h : clock? cs = some (clock, offset, rest)) :
    clock.seconds ≤ 86400 ∧ offset.natAbs ≤ 86400 := by
  simp only [clock?, Option.bind_eq_bind, Option.bind_eq_some_iff] at h
  obtain ⟨⟨hour, _⟩, _, _, _, ⟨minute, _⟩, _, _, _, ⟨second, _⟩, _, ⟨nanos, _⟩, _, c, hClock,
    ⟨o, _⟩, hOffset, h⟩ := h
  cases h
  refine ⟨?_, natAbs_le_of_offset? hOffset⟩
  simp only [Clock.ofParts?, Bool.or_eq_true, decide_eq_true_eq] at hClock
  split at hClock
  · cases hClock
  · split at hClock
    · cases hClock
      dsimp only
      omega
    · cases hClock
      dsimp only
      omega

theorem bounds_of_settle? {i j : Instant} (h : settle? i = some j) :
    j.seconds = i.seconds ∧ j.nanos < 1000000000 := by
  rw [settle?] at h
  split at h
  · cases h
    exact ⟨rfl, ‹_›⟩
  · dsimp only at h
    split at h
    · cases h
      exact ⟨rfl, Nat.lt_succ_self _⟩
    · cases h

/-- What is read lies within twelve thousand years of 1970. -/
theorem natAbs_le_of_millis? {ms : Int} {cs : List Char} (h : millis? cs = some ms) :
    ms.natAbs ≤ 400000000000000 := by
  simp only [millis?, Option.bind_eq_bind, Option.bind_eq_some_iff] at h
  obtain ⟨⟨date, rest⟩, hDate, h⟩ := h
  have hDays := natAbs_le_of_date? hDate
  dsimp only at h
  split at h
  · cases h
  · split at h
    · cases h
    · obtain ⟨⟨clock, offset, _⟩, hClock, h⟩ := Option.bind_eq_some_iff.mp h
      obtain ⟨hSeconds, hOffset⟩ := bounds_of_clock? hClock
      dsimp only at h
      split at h
      · cases h
      · obtain ⟨i, hSettled, h⟩ := Option.bind_eq_some_iff.mp h
        obtain ⟨hSame, hNanos⟩ := bounds_of_settle? hSettled
        cases h
        rw [Int.natAbs_tdiv, Instant.toNanos]
        change _ / 1000000 ≤ _
        rw [Moment.toInstant] at hSame
        dsimp only at hSame
        omega

end Rfc3339

end RelPipe.Calendar
