import LocaleClock.Calendar.Moment
import LocaleClock.Log.Level

/-! Log records, values that come with records, and the line a record is written as. -/

namespace LocaleClock.Log

/-- A message with its level and the part of the program it comes from. -/
structure Record where
  severity : Severity
  target : String
  message : String
  deriving DecidableEq, Repr

/-- The line of a record: the time of day to the millisecond in brackets, the level filled up to
five columns, the target and the message. -/
def Record.line (r : Record) (time : Moment) : String :=
  String.ofList (['['] ++ time.timeText ++ '.' :: time.fractionDigits 3 ++ "] ".toList ++
    Text.padRight 5 r.severity.name.toList) ++ " " ++ r.target ++ ": " ++ r.message

/-- A value together with the records that were made on the way to it, in order. -/
structure Logged (α : Type) where
  value : α
  records : List Record
  deriving DecidableEq, Repr

namespace Logged

def quiet {α : Type} (value : α) : Logged α := ⟨value, []⟩

def note {α : Type} (x : Logged α) (r : Record) : Logged α := ⟨x.value, x.records ++ [r]⟩

/-- Goes on with a value; the records of both parts are kept in order. -/
def andThen {α β : Type} (x : Logged α) (f : α → Logged β) : Logged β :=
  let y := f x.value
  ⟨y.value, x.records ++ y.records⟩

end Logged

end LocaleClock.Log
