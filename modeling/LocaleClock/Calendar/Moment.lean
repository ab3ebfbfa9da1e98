import LocaleClock.Calendar.Date
import LocaleClock.Calendar.Offset

/-! Instants of time and how they read on a clock at an offset. An instant counts seconds from
1970-01-01T00:00:00Z; a leap second is the last second of its minute with a fraction of a second or
more, so that it follows the second it is numbered like. -/

namespace LocaleClock

/-- Holds of the instants between the years -262143 and 262142. The fraction may exceed a second
only in the last second of a minute. -/
def isInstant (seconds : Int) (nanos : Nat) : Bool :=
  -8334601228800 ≤ seconds && seconds ≤ 8210266876799 && nanos < 2000000000 &&
    (nanos < 1000000000 || seconds % 60 == 59)

structure Instant where
  seconds : Int
  nanos : Nat
  valid : isInstant seconds nanos = true
  deriving DecidableEq

namespace Instant

def of? (seconds : Int) (nanos : Nat) : Option Instant :=
  if h : isInstant seconds nanos = true then some ⟨seconds, nanos, h⟩ else none

end Instant

/-- The offset of a place at each instant. -/
abbrev TimeZone := Instant → Offset

def TimeZone.utc : TimeZone := fun _ => .utc

/-- An instant as a clock at an offset shows it. The fraction of a leap second is at least one
second. -/
structure Moment where
  date : Date
  secondOfDay : Nat
  nanos : Nat
  offset : Offset
  timestamp : Int
  deriving DecidableEq

namespace Moment

open Text

def of (t : Instant) (o : Offset) : Moment :=
  let shown := t.seconds + o.seconds
  { date := Date.ofDays (shown / 86400)
    secondOfDay := (shown % 86400).toNat
    nanos := t.nanos
    offset := o
    timestamp := t.seconds }

def hour (m : Moment) : Nat := m.secondOfDay / 3600

/-- The hour on a dial of twelve hours, from 1 to 12. -/
def dialHour (m : Moment) : Nat := if m.hour % 12 = 0 then 12 else m.hour % 12

def minute (m : Moment) : Nat := m.secondOfDay / 60 % 60

/-- The second of the minute, one more during a leap second. -/
def second (m : Moment) : Nat := m.secondOfDay % 60 + m.nanos / 1000000000

def fraction (m : Moment) : Nat := m.nanos % 1000000000

def isAfternoon (m : Moment) : Bool := 12 ≤ m.hour

/-- A year with at least four digits; one that needs more or is negative shows its sign, which
counts as one of five places. -/
def yearText (year : Int) : List Char :=
  if 0 ≤ year ∧ year < 10000 then zeroPadded 4 year.toNat
  else (if year < 0 then '-' else '+') :: zeroPadded 4 year.natAbs

def dateText (m : Moment) : List Char :=
  yearText m.date.year ++ '-' :: twoDigits m.date.month ++ '-' :: twoDigits m.date.day

def timeText (m : Moment) : List Char :=
  twoDigits m.hour ++ ':' :: twoDigits m.minute ++ ':' :: twoDigits m.second

/-- The first places of the fraction, at most nine. -/
def fractionDigits (m : Moment) (places : Nat) : List Char :=
  zeroPadded places (m.fraction / Nat.pow 10 (9 - places))

/-- The fraction in the fewest of three, six or nine places that are exact, after a decimal point;
nothing for a whole second. -/
def fractionText (m : Moment) (point : List Char) : List Char :=
  if m.fraction = 0 then []
  else if m.fraction % 1000000 = 0 then point ++ m.fractionDigits 3
  else if m.fraction % 1000 = 0 then point ++ m.fractionDigits 6
  else point ++ m.fractionDigits 9

/-- Date, time, fraction and offset in the form of timestamps. -/
def stampText (m : Moment) : List Char :=
  m.dateText ++ 'T' :: m.timeText ++ m.fractionText ['.'] ++ m.offset.colonText

end Moment

end LocaleClock
