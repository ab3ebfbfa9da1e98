import Mathlib.Tactic.IntervalCases
import LocaleClock.Calendar.Date

/-! Dates and day numbers. A day number lies in one period of 400 years, and in it in one century,
one group of four years and one year; a year is counted from March, so only its last day is ever
missing. The date of a day number is read off these parts, exists in the calendar and has the day
number back. -/

namespace LocaleClock.Date

/-! ### The days of a period -/

/-- Holds of the parts of a day of a period: its century, its group of four years in the century,
its year in the group and its day in the year. The last day of a year is there when the next year is
a leap year: at the end of a group, and at the end of a century only when the period ends too. -/
structure IsDayOfPeriod (century group year day : Nat) : Prop where
  century_lt : century < 4
  group_lt : group < 25
  year_lt : year < 4
  day_le : day ≤ 365
  of_last : day = 365 → year = 3 ∧ (group = 24 → century = 3)

def dayOfPeriod (century group year day : Nat) : Nat :=
  36524 * century + 1461 * group + 365 * year + day

theorem exists_isDayOfPeriod {n : Nat} (hn : n < 146097) :
    ∃ c q r s, IsDayOfPeriod c q r s ∧ dayOfPeriod c q r s = n := by
  obtain ⟨c, m, hc, hm, rfl⟩ :
      ∃ c m, c < 4 ∧ (m < 36524 ∨ m = 36524 ∧ c = 3) ∧ n = 36524 * c + m := by
    by_cases hlast : n = 146096
    · exact ⟨3, 36524, by omega, by omega, by omega⟩
    · exact ⟨n / 36524, n % 36524, by omega, by omega, by omega⟩
  obtain ⟨r, s, hr, hs, hrest⟩ :
      ∃ r s, r < 4 ∧ (s < 365 ∨ s = 365 ∧ r = 3) ∧ m % 1461 = 365 * r + s := by
    by_cases hlast : m % 1461 = 1460
    · exact ⟨3, 365, by omega, by omega, by omega⟩
    · exact ⟨m % 1461 / 365, m % 1461 % 365, by omega, by omega, by omega⟩
  refine ⟨c, m / 1461, r, s, ⟨hc, by omega, hr, by omega, by omega⟩, ?_⟩
  rw [dayOfPeriod]
  omega

/-- Without the leap days before it, a day of a period lies in its year of 365 days. -/
theorem yearOfPeriod_eq {c q r s : Nat} (h : IsDayOfPeriod c q r s) :
    (dayOfPeriod c q r s - dayOfPeriod c q r s / 1460 + dayOfPeriod c q r s / 36524 -
      dayOfPeriod c q r s / 146096) / 365 = 100 * c + 4 * q + r := by
  obtain ⟨hc, hq, hr, hs, hlast⟩ := h
  rw [dayOfPeriod]
  by_cases hend : c = 3 ∧ q = 24 ∧ r = 3 ∧ s = 365
  · obtain ⟨rfl, rfl, rfl, rfl⟩ := hend
    rfl
  · have hcentury : (36524 * c + 1461 * q + 365 * r + s) / 36524 = c := by omega
    have hperiod : (36524 * c + 1461 * q + 365 * r + s) / 146096 = 0 := by omega
    rw [hcentury, hperiod]
    omega

/-! ### Years from March -/

/-- The date of a day of a year that is counted from the first of March, its day zero. -/
def ofMarch (year : Int) (day : Nat) : Date :=
  let monthAfterMarch := (5 * day + 2) / 153
  let month := if monthAfterMarch < 10 then monthAfterMarch + 3 else monthAfterMarch - 9
  { year := year + if month ≤ 2 then 1 else 0
    month := month
    day := day - daysBeforeMonth monthAfterMarch + 1 }

def firstOfMarch (year : Int) : Int := 365 * year + year / 4 - year / 100 + year / 400 - 719468

theorem toDays_ofMarch (year : Int) {day : Nat} (h : day ≤ 365) :
    (ofMarch year day).toDays = firstOfMarch year + day := by
  obtain ⟨m, hm⟩ : ∃ m, m = (5 * day + 2) / 153 := ⟨_, rfl⟩
  simp only [ofMarch, toDays, firstOfMarch, daysBeforeMonth, ← hm]
  by_cases hyear : m < 10
  · have hmonth : ¬m + 3 ≤ 2 := by omega
    have hback : (m + 3 + 9) % 12 = m := by omega
    simp only [hyear, hmonth, hback, if_true, if_false]
    omega
  · -- January and February are in the next year
    have hmonth : m - 9 ≤ 2 := by omega
    have hback : (m - 9 + 9) % 12 = m := by omega
    simp only [hyear, hmonth, hback, if_true, if_false]
    omega

theorem isValid_ofMarch {year : Int} {day : Nat} (h : day ≤ 365)
    (hlast : day = 365 → isLeapYear (year + 1) = true) : (ofMarch year day).isValid = true := by
  obtain ⟨m, hm⟩ : ∃ m, m = (5 * day + 2) / 153 := ⟨_, rfl⟩
  have hlt : m < 12 := by omega
  simp only [isValid, Bool.and_eq_true, decide_eq_true_eq, ofMarch, daysBeforeMonth, ← hm]
  obtain hmonth | rfl : m < 11 ∨ m = 11 := by omega
  · interval_cases m <;> simp [daysInMonth] <;> omega
  · -- February, the last month of the year
    by_cases hday : day = 365
    · simp [daysInMonth, hlast hday, hday]
    · have hlength : 28 ≤ daysInMonth (year + 1) 2 := by
        rw [daysInMonth]
        split <;> omega
      simp
      omega

theorem daysInMonth_le (year : Int) (month : Nat) : daysInMonth year month ≤ 31 := by
  fun_cases daysInMonth <;> omega

theorem daysInMonth_of_lt (year : Int) {month : Nat} (h : 12 < month) :
    daysInMonth year month = 0 := by
  fun_cases daysInMonth <;> omega

theorem le_of_isValid {d : Date} (h : d.isValid = true) : d.month ≤ 12 ∧ d.day ≤ 31 := by
  simp only [isValid, Bool.and_eq_true, decide_eq_true_eq] at h
  have hmonth : 12 < d.month → daysInMonth d.year d.month = 0 := daysInMonth_of_lt d.year
  have hday := daysInMonth_le d.year d.month
  omega

/-! ### Day numbers -/

/-- The parts of a day number are those that its date is read off. -/
theorem ofDays_eq (period : Int) {c q r s : Nat} (h : IsDayOfPeriod c q r s) :
    ofDays (146097 * period + dayOfPeriod c q r s - 719468) =
      ofMarch (400 * period + (100 * c + 4 * q + r : Nat)) s := by
  have hyear := yearOfPeriod_eq h
  obtain ⟨hc, hq, hr, hs, hlast⟩ := h
  have hlt : dayOfPeriod c q r s < 146097 := by
    rw [dayOfPeriod]
    omega
  obtain ⟨n, hn⟩ : ∃ n, n = dayOfPeriod c q r s := ⟨_, rfl⟩
  have hperiod : (146097 * period + (n : Int)) / 146097 = period := by omega
  have hday : ((146097 * period + (n : Int)) % 146097).toNat = n := by omega
  have hdayOfYear : n - (365 * (100 * c + 4 * q + r) + (100 * c + 4 * q + r) / 4 -
      (100 * c + 4 * q + r) / 100) = s := by
    rw [hn, dayOfPeriod]
    omega
  rw [← hn] at hyear ⊢
  simp only [ofDays, ofMarch, Int.sub_add_cancel, hperiod, hday, hyear, hdayOfYear]
  congr 2
  omega

theorem exists_ofMarch (days : Int) :
    ∃ year day, day ≤ 365 ∧ (day = 365 → isLeapYear (year + 1) = true) ∧
      ofDays days = ofMarch year day ∧ firstOfMarch year + (day : Nat) = days := by
  have hlt : ((days + 719468) % 146097).toNat < 146097 := by omega
  obtain ⟨c, q, r, s, h, hn⟩ := exists_isDayOfPeriod hlt
  obtain ⟨period, hperiod⟩ : ∃ period, period = (days + 719468) / 146097 := ⟨_, rfl⟩
  have hdays : days = 146097 * period + (dayOfPeriod c q r s : Nat) - 719468 := by omega
  refine ⟨400 * period + (100 * c + 4 * q + r : Nat), s, h.day_le, fun hs => ?_, ?_, ?_⟩
  · obtain ⟨rfl, hcentury⟩ := h.of_last hs
    have hgroup := h.group_lt
    simp only [isLeapYear, Bool.and_eq_true, Bool.or_eq_true, beq_iff_eq, bne_iff_ne]
    omega
  · rw [hdays, ofDays_eq period h]
  · obtain ⟨hc, hq, hr, hs, hlast⟩ := h
    rw [hdays, firstOfMarch, dayOfPeriod]
    omega

theorem toDays_ofDays (days : Int) : (ofDays days).toDays = days := by
  obtain ⟨year, day, hday, -, hdate, hdays⟩ := exists_ofMarch days
  rw [hdate, toDays_ofMarch year hday, hdays]

theorem isValid_ofDays (days : Int) : (ofDays days).isValid = true := by
  obtain ⟨year, day, hday, hlast, hdate, -⟩ := exists_ofMarch days
  rw [hdate, isValid_ofMarch hday hlast]

end LocaleClock.Date
