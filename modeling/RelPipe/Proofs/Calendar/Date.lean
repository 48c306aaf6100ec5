import RelPipe.Calendar.Date

/-!
The count of days and the calendar are inverse to each other: the date that lies a number of days
after the first day of 1970 is a date of the calendar, and that many days after it.
-/

namespace RelPipe.Calendar

set_option autoImplicit false

/-- A day of a cycle of 400 years, counted from March: a century, four years of it, one of these and
a day. Only the last of four years has a leap day, and the last of a century only at the end of the
cycle. -/
structure CycleDay (day century span year dayOfYear : Nat) : Prop where
  sum : day = 36524 * century + 1461 * span + 365 * year + dayOfYear
  century_lt : century < 4
  span_lt : span < 25
  year_lt : year < 4
  dayOfYear_le : dayOfYear ≤ 365
  leap : dayOfYear = 365 → year = 3 ∧ (span < 24 ∨ century = 3)

/-- Division with a bound on the quotient. Only where the bound is met the rest may be large. -/
theorem exists_boundedQuotient (n limit : Nat) {d : Nat} (hd : 0 < d) :
    ∃ q rest, n = d * q + rest ∧ q ≤ limit ∧ (q < limit → rest < d) := by
  have hDivide := Nat.div_add_mod n d
  have hRest := Nat.mod_lt n hd
  by_cases hSmall : n / d ≤ limit
  · exact ⟨n / d, n % d, hDivide.symm, hSmall, fun _ => hRest⟩
  · have hLimit := Nat.mul_le_mul_left d (Nat.le_of_not_le hSmall)
    exact ⟨limit, n - d * limit, by omega, Nat.le_refl _, fun hLess => absurd hLess (by omega)⟩

theorem exists_cycleDay {day : Nat} (h : day < 146097) :
    ∃ century span year dayOfYear, CycleDay day century span year dayOfYear := by
  obtain ⟨century, inCentury, hCentury, hCenturyLimit, hCenturyRest⟩ :=
    exists_boundedQuotient day 3 (by omega : 0 < 36524)
  obtain ⟨span, inSpan, hSpan, hSpanLimit, hSpanRest⟩ :=
    exists_boundedQuotient inCentury 24 (by omega : 0 < 1461)
  obtain ⟨year, dayOfYear, hYear, hYearLimit, hYearRest⟩ :=
    exists_boundedQuotient inSpan 3 (by omega : 0 < 365)
  refine ⟨century, span, year, dayOfYear, ?_, ?_, ?_, ?_, ?_, ?_⟩ <;> omega

namespace CycleDay

variable {day century span year dayOfYear : Nat}

theorem yearOfCycle (h : CycleDay day century span year dayOfYear) :
    (day - day / 1460 + day / 36524 - day / 146096) / 365 = 100 * century + 4 * span + year := by
  obtain ⟨hSum, hCentury, hSpan, hYear, hDay, hLeap⟩ := h
  -- Only on the last day of the cycle do the centuries before it number four.
  have hCenturies : day / 36524 = century + day / 146096 := by
    by_cases hLast : day = 146096
    · omega
    · have hNone : day / 146096 = 0 := by omega
      omega
  -- A leap day makes up for the day by which four years exceed 1460 days.
  obtain ⟨extra, hSpans, hExtra⟩ : ∃ extra, day / 1460 = 25 * century + span + extra ∧
      extra = if 1460 ≤ 24 * century + span + 365 * year + dayOfYear then 1 else 0 := by
    refine ⟨_, ?_, rfl⟩
    split <;> omega
  split at hExtra <;> omega

theorem dayOfYear_eq (h : CycleDay day century span year dayOfYear) {y : Nat}
    (hy : y = 100 * century + 4 * span + year) :
    365 * y + y / 4 - y / 100 + dayOfYear = day := by
  obtain ⟨hSum, hCentury, hSpan, hYear, hDay, hLeap⟩ := h
  omega

end CycleDay

namespace Date

/-- The date that lies a number of days after the first of March. -/
def ofMarch (year : Int) (dayOfYear : Nat) : Date :=
  let m := (5 * dayOfYear + 2) / 153
  let month := if m < 10 then m + 3 else m - 9
  { year := if month ≤ 2 then year + 1 else year
    month := month
    day := dayOfYear - (153 * m + 2) / 5 + 1 }

/-- The months of a year that starts in March, as far as they do not depend on the year. -/
theorem month_ofMarch : ∀ dayOfYear < 366, let d := ofMarch 0 dayOfYear
    1 ≤ d.month ∧ d.month ≤ 12 ∧ 1 ≤ d.day ∧
      (d.month ≠ 2 → d.day ≤ daysInMonth 0 d.month) ∧
      (d.month = 2 → d.day ≤ 28 ∨ dayOfYear = 365 ∧ d.day = 29) := by
  decide +kernel

theorem isValid_ofMarch {year : Int} {dayOfYear : Nat} (h : dayOfYear ≤ 365)
    (hLeap : dayOfYear = 365 → isLeapYear (year + 1) = true) :
    (ofMarch year dayOfYear).isValid = true := by
  obtain ⟨hFirst, hLast, hDay, hOther, hFebruary⟩ := month_ofMarch dayOfYear (by omega)
  have hMonth : (ofMarch year dayOfYear).month = (ofMarch 0 dayOfYear).month := rfl
  have hDays : (ofMarch year dayOfYear).day = (ofMarch 0 dayOfYear).day := rfl
  have hBound : (ofMarch 0 dayOfYear).day ≤
      daysInMonth (ofMarch year dayOfYear).year (ofMarch 0 dayOfYear).month := by
    by_cases hTwo : (ofMarch 0 dayOfYear).month = 2
    · have hYear : (ofMarch year dayOfYear).year = year + 1 :=
        if_pos (show (ofMarch 0 dayOfYear).month ≤ 2 by omega)
      rw [hTwo, hYear, daysInMonth, if_pos rfl]
      obtain hShort | ⟨hLong, hDay⟩ := hFebruary hTwo
      · split <;> omega
      · rw [if_pos (hLeap hLong)]
        omega
    · have hSame := hOther hTwo
      rw [daysInMonth, if_neg hTwo] at hSame ⊢
      exact hSame
  simp only [isValid, hMonth, hDays, Bool.and_eq_true, decide_eq_true_eq]
  exact ⟨⟨⟨hFirst, hLast⟩, hDay⟩, hBound⟩

theorem toDays_ofMarch (year : Int) {dayOfYear : Nat} (h : dayOfYear ≤ 365) :
    (ofMarch year dayOfYear).toDays =
      year / 400 * 146097 + (year % 400 * 365 + year % 400 / 4 - year % 400 / 100 + dayOfYear) -
        719468 := by
  have hBranches : ∃ m : Nat, m = (5 * dayOfYear + 2) / 153 ∧ m ≤ 11 ∧
      (153 * m + 2) / 5 ≤ dayOfYear := ⟨_, rfl, by omega, by omega⟩
  obtain ⟨m, hm, hLast, hStart⟩ := hBranches
  simp only [toDays, ofMarch, ← hm, Int.fdiv_eq_ediv_of_nonneg _ (by decide : (0 : Int) ≤ 400)]
  by_cases hSpring : m < 10
  · have hMonth : ¬ m + 3 ≤ 2 := by omega
    have hMarch : 2 < m + 3 := by omega
    simp only [if_pos hSpring, if_neg hMonth, if_pos hMarch]
    omega
  · have hMonth : m - 9 ≤ 2 := by omega
    have hMarch : ¬ 2 < m - 9 := by omega
    simp only [if_neg hSpring, if_pos hMonth, if_neg hMarch, Int.add_sub_cancel]
    omega

/-- Every day lies in a year that starts in March, and its number within that year gives its month
and its day. -/
theorem exists_ofMarch (days : Int) : ∃ (cycle : Int) (year dayOfYear : Nat),
    ofDays days = ofMarch (year + cycle * 400) dayOfYear ∧ year < 400 ∧ dayOfYear ≤ 365 ∧
      (dayOfYear = 365 → isLeapYear (year + cycle * 400 + 1) = true) ∧
      days + 719468 = cycle * 146097 + (365 * year + year / 4 - year / 100 + dayOfYear : Nat) := by
  have hCycle : (days + 719468).fdiv 146097 = (days + 719468) / 146097 :=
    Int.fdiv_eq_ediv_of_nonneg _ (by decide)
  obtain ⟨day, hDay⟩ : ∃ day : Nat,
      day = (days + 719468 - (days + 719468) / 146097 * 146097).toNat := ⟨_, rfl⟩
  have hWithin : day < 146097 := by omega
  obtain ⟨century, span, inSpan, dayOfYear, h⟩ := exists_cycleDay hWithin
  have hYear := h.yearOfCycle
  have hSum := h.dayOfYear_eq rfl
  have hDayOfYear : day - (365 * (100 * century + 4 * span + inSpan) +
      (100 * century + 4 * span + inSpan) / 4 - (100 * century + 4 * span + inSpan) / 100) =
        dayOfYear := by omega
  obtain ⟨-, hCentury, hSpan, hInSpan, hLast, hLeap⟩ := h
  refine ⟨(days + 719468) / 146097, 100 * century + 4 * span + inSpan, dayOfYear, ?_, by omega,
    hLast, ?_, by omega⟩
  · rw [← hDayOfYear, ← hYear, hDay, ← hCycle]
    rfl
  · intro hLong
    obtain ⟨rfl, hOther⟩ := hLeap hLong
    simp only [isLeapYear, Bool.and_eq_true, Bool.or_eq_true, beq_iff_eq, bne_iff_ne]
    omega

theorem isValid_ofDays (days : Int) : (ofDays days).isValid = true := by
  obtain ⟨cycle, year, dayOfYear, hDate, hYear, hDay, hLeap, hSum⟩ := exists_ofMarch days
  rw [hDate]
  exact isValid_ofMarch hDay hLeap

theorem toDays_ofDays (days : Int) : (ofDays days).toDays = days := by
  obtain ⟨cycle, year, dayOfYear, hDate, hYear, hDay, hLeap, hSum⟩ := exists_ofMarch days
  rw [hDate, toDays_ofMarch _ hDay]
  omega

end Date

end RelPipe.Calendar
