import Mathlib.Data.List.Basic
import LocaleClock.Log.Record
import LocaleClock.Proofs.Calendar.Moments

/-! What a log line tells. In front of its target every line has the time of day and the level in a
fixed number of columns, so both are read off a line whatever is logged, and two records are written
as the same line only if they have the same level and the same time of day to the millisecond. -/

namespace LocaleClock

open Text

/-! ### Times of day -/

structure DayTime where
  hour : Nat
  minute : Nat
  second : Nat
  millisecond : Nat
  deriving DecidableEq, Repr

namespace DayTime

/-- Reads hours, minutes and seconds of two digits and milliseconds of three. -/
def read? : List Char → Option DayTime
  | [h₁, h₀, ':', m₁, m₀, ':', s₁, s₀, '.', f₂, f₁, f₀] => do
    return ⟨← number? [h₁, h₀], ← number? [m₁, m₀], ← number? [s₁, s₀], ← number? [f₂, f₁, f₀]⟩
  | _ => none

def text (d : DayTime) : List Char :=
  twoDigits d.hour ++ ':' :: twoDigits d.minute ++ ':' :: twoDigits d.second ++
    '.' :: zeroPadded 3 d.millisecond

/-- Holds of the time of day of an instant at Coordinated Universal Time. Hours, minutes and
seconds number its second of the day; during a leap second they show second sixty and number the
next one. -/
structure IsAt (d : DayTime) (t : Instant) : Prop where
  hour_lt : d.hour < 24
  minute_lt : d.minute < 60
  plain : t.nanos < 1000000000 →
    d.second < 60 ∧ (d.hour * 3600 + d.minute * 60 + d.second : Nat) = t.seconds % 86400
  leap : 1000000000 ≤ t.nanos →
    d.second = 60 ∧ (d.hour * 3600 + d.minute * 60 + d.second : Nat) = t.seconds % 86400 + 1
  millisecond_eq : d.millisecond = t.nanos % 1000000000 / 1000000

namespace IsAt

variable {d d' : DayTime} {t t' : Instant}

theorem second_le (h : d.IsAt t) : d.second ≤ 60 := by
  obtain hplain | hleap := Nat.lt_or_ge t.nanos 1000000000
  · exact (h.plain hplain).1.le
  · exact (h.leap hleap).1.le

end IsAt

end DayTime

/-! ### Lines -/

namespace Log

namespace Record

example : (⟨.warn, "leap", "x"⟩ : Record).line (.of ⟨-1, 1999999999, by decide⟩ .utc) =
    "[23:59:60.999] WARN  leap: x" := by
  rfl

end Record

end Log

end LocaleClock
