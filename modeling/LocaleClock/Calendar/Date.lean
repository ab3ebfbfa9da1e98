/-! The civil calendar: dates of the Gregorian calendar extended to all years, numbered by the days
since 1970-01-01. The two directions are written independently of each other: `Date.toDays` counts
the days of whole years and months, `Date.ofDays` divides a day number by the calendar's periods of
400, 100, 4 and 1 years. -/

namespace LocaleClock

/-- A date of the calendar. Months and days count from one. -/
structure Date where
  year : Int
  month : Nat
  day : Nat
  deriving DecidableEq, Repr

namespace Date

/-- A leap year is divisible by 4, and by 400 when it ends a century. -/
def isLeapYear (year : Int) : Bool :=
  year % 4 == 0 && (year % 100 != 0 || year % 400 == 0)

/-- The length of a month, zero for a month number that no month has. -/
def daysInMonth (year : Int) (month : Nat) : Nat :=
  match month with
  | 1 | 3 | 5 | 7 | 8 | 10 | 12 => 31
  | 4 | 6 | 9 | 11 => 30
  | 2 => if isLeapYear year then 29 else 28
  | _ => 0

def isValid (d : Date) : Bool := 1 ≤ d.day && d.day ≤ daysInMonth d.year d.month

/-- The days of a year before the first of March, counted from the year's first of March: month
`m` after March starts on day `(153 m + 2) / 5`. -/
def daysBeforeMonth (monthAfterMarch : Nat) : Nat := (153 * monthAfterMarch + 2) / 5

/-- The number of days from 1970-01-01. Years are counted from March, so that a leap day is the
last day of its year. -/
def toDays (d : Date) : Int :=
  let year := if d.month ≤ 2 then d.year - 1 else d.year
  let monthAfterMarch := (d.month + 9) % 12
  365 * year + year / 4 - year / 100 + year / 400 + daysBeforeMonth monthAfterMarch + d.day - 1 -
    719468

/-- The date a number of days after 1970-01-01. A period of 400 years has 146097 days; within it
the year is found by taking out the leap days before dividing by 365. -/
def ofDays (days : Int) : Date :=
  let shifted := days + 719468
  let period := shifted / 146097
  let dayOfPeriod := (shifted % 146097).toNat
  let yearOfPeriod :=
    (dayOfPeriod - dayOfPeriod / 1460 + dayOfPeriod / 36524 - dayOfPeriod / 146096) / 365
  let dayOfYear := dayOfPeriod - (365 * yearOfPeriod + yearOfPeriod / 4 - yearOfPeriod / 100)
  let monthAfterMarch := (5 * dayOfYear + 2) / 153
  let month := if monthAfterMarch < 10 then monthAfterMarch + 3 else monthAfterMarch - 9
  { year := yearOfPeriod + period * 400 + if month ≤ 2 then 1 else 0
    month := month
    day := dayOfYear - daysBeforeMonth monthAfterMarch + 1 }

/-- The place of a date in its year, from one. -/
def dayOfYear (d : Date) : Nat := (d.toDays - toDays ⟨d.year, 1, 1⟩ + 1).toNat

/-- Days since Sunday, from 0 to 6. The first of January 1970 was a Thursday. -/
def daysSinceSunday (d : Date) : Nat := ((d.toDays + 4) % 7).toNat

def daysSinceMonday (d : Date) : Nat := (d.daysSinceSunday + 6) % 7

def quarter (d : Date) : Nat := (d.month + 2) / 3

/-- Weeks of the year that start on Sunday; the days before the first Sunday are week 0. -/
def weekFromSunday (d : Date) : Nat := (d.dayOfYear + 6 - d.daysSinceSunday) / 7

/-- Weeks of the year that start on Monday; the days before the first Monday are week 0. -/
def weekFromMonday (d : Date) : Nat := (d.dayOfYear + 6 - d.daysSinceMonday) / 7

/-- The Thursday of the week, Monday to Sunday, that a date lies in. -/
def thursday (d : Date) : Date := ofDays (d.toDays + 3 - d.daysSinceMonday)

/-- The year that a date's week belongs to: the one that has the week's Thursday. -/
def isoYear (d : Date) : Int := d.thursday.year

/-- The number of a date's week in its week year, from 1 to 53. -/
def isoWeek (d : Date) : Nat := (d.thursday.dayOfYear - 1) / 7 + 1

end Date

end LocaleClock
