/-! What a pattern is made of. A pattern is read into items; each item is a character that is copied
or one thing to show about a moment. -/

namespace LocaleClock.Pattern

/-- How a number is filled up to its width. -/
inductive Fill where
  | none | blanks | zeros
  deriving DecidableEq, Repr

inductive Field where
  | year | century | yearOfCentury
  | isoYear | isoYearOfCentury | isoWeek
  | quarter | month | day | dayOfYear
  | weekFromSunday | weekFromMonday
  /-- The weekday counted from Sunday as zero. -/
  | weekday
  /-- The weekday counted from Monday as one. -/
  | isoWeekday
  | hour | dialHour | minute | second | nanosecond
  /-- Seconds since 1970-01-01T00:00:00Z. -/
  | timestamp
  deriving DecidableEq, Repr

inductive Word where
  | shortWeekday | weekday | shortMonth | month
  /-- The half of the day as the locale writes it. -/
  | dayHalf
  /-- The half of the day in small letters. -/
  | dayHalfSmall
  deriving DecidableEq, Repr

inductive Fraction where
  /-- As many places as are exact, after a decimal point; nothing for whole seconds. -/
  | asNeeded
  /-- So many places after a decimal point. -/
  | pointed (places : Nat)
  /-- So many places alone. -/
  | bare (places : Nat)
  deriving DecidableEq, Repr

inductive Zone where
  | plain | colon | full | hours | name
  /-- A form for reading offsets, which cannot be written. -/
  | lenient
  deriving DecidableEq, Repr

/-- A pattern that each locale has of its own. -/
inductive Preferred where
  | dateTime | date | time | dialTime
  deriving DecidableEq, Repr

/-- One piece of a pattern. -/
inductive Item where
  | literal (c : Char)
  | number (field : Field) (fill : Fill)
  | word (w : Word)
  | fraction (f : Fraction)
  | zone (z : Zone)
  /-- Date, time, fraction and offset in the form of timestamps. -/
  | stamp
  | preferred (p : Preferred)
  deriving DecidableEq, Repr

end LocaleClock.Pattern
