import LocaleClock.Calendar.Moment
import LocaleClock.Pattern.Expansion
import LocaleClock.Text.Lowercase

/-! Showing a moment. Every item but two can be shown: the lenient form of the offset is for reading
only, and a preferred pattern has to be filled in before. -/

namespace LocaleClock.Pattern

open Text LocaleClock.Locale

/-! ### Numbers -/

def filled (width : Nat) (fill : Fill) (n : Nat) : List Char :=
  match fill with
  | .none => digits n
  | .blanks => padLeft width ' ' (digits n)
  | .zeros => zeroPadded width n

/-- A number filled up to a width together with its sign. Zeros stand after the sign, blanks before
it. -/
def filledSigned (width : Nat) (fill : Fill) (sign : Char) (n : Nat) : List Char :=
  match fill with
  | .none => sign :: digits n
  | .blanks => padLeft width ' ' (sign :: digits n)
  | .zeros => sign :: zeroPadded (width - 1) n

/-- A year of four digits, or a longer or negative one with its sign. -/
def filledYear (fill : Fill) (year : Int) : List Char :=
  if 0 ≤ year ∧ year < 10000 then filled 4 fill year.toNat
  else filledSigned 5 fill (if year < 0 then '-' else '+') year.natAbs

/-- A number of two places. The first place is filled when it is zero. -/
def filledPair (fill : Fill) (n : Nat) : List Char :=
  match fill with
  | .zeros => twoDigits n
  | .blanks => if n / 10 = 0 then [' ', digit (n % 10)] else twoDigits n
  | .none => if n / 10 = 0 then [digit (n % 10)] else twoDigits n

/-- The text of a number of a moment. The count of centuries is kept modulo 256. Numbers of one
digit are never filled. -/
def numberText (m : Moment) (field : Field) (fill : Fill) : List Char :=
  match field with
  | .year => filledYear fill m.date.year
  | .isoYear => filledYear fill m.date.isoYear
  | .century => filledPair fill (m.date.year / 100 % 256).toNat
  | .yearOfCentury => filledPair fill (m.date.year % 100).toNat
  | .isoYearOfCentury => filledPair fill (m.date.isoYear % 100).toNat
  | .isoWeek => filledPair fill m.date.isoWeek
  | .month => filledPair fill m.date.month
  | .day => filledPair fill m.date.day
  | .weekFromSunday => filledPair fill m.date.weekFromSunday
  | .weekFromMonday => filledPair fill m.date.weekFromMonday
  | .hour => filledPair fill m.hour
  | .dialHour => filledPair fill m.dialHour
  | .minute => filledPair fill m.minute
  | .second => filledPair fill m.second
  | .dayOfYear => filled 3 fill m.date.dayOfYear
  | .nanosecond => filled 9 fill m.fraction
  | .timestamp =>
    if m.timestamp < 0 then filledSigned 9 fill '-' m.timestamp.natAbs
    else filled 9 fill m.timestamp.toNat
  | .quarter => [digit m.date.quarter]
  | .weekday => [digit m.date.daysSinceSunday]
  | .isoWeekday => [digit (m.date.daysSinceMonday + 1)]

/-! ### Words, fractions and offsets -/

def nameAt (names : List String) (n : Nat) : List Char := (names[n]?.getD "").toList

def wordText (c : Conventions) (m : Moment) : Word → List Char
  | .shortWeekday => nameAt c.shortWeekdays m.date.daysSinceSunday
  | .weekday => nameAt c.weekdays m.date.daysSinceSunday
  | .shortMonth => nameAt c.shortMonths (m.date.month - 1)
  | .month => nameAt c.months (m.date.month - 1)
  | .dayHalf => (if m.isAfternoon then c.afternoon else c.morning).toList
  | .dayHalfSmall => lowercase (if m.isAfternoon then c.afternoon else c.morning).toList

def fractionText (c : Conventions) (m : Moment) : Fraction → List Char
  | .asNeeded => m.fractionText c.decimalPoint.toList
  | .pointed places => c.decimalPoint.toList ++ m.fractionDigits places
  | .bare places => m.fractionDigits places

def zoneText? (o : Offset) : Zone → Option (List Char)
  | .plain => some o.plainText
  | .colon => some o.colonText
  | .full => some o.fullText
  | .hours => some o.hoursText
  | .name => some o.exactText
  | .lenient => none

/-! ### Items -/

def itemText? (c : Conventions) (m : Moment) : Item → Option (List Char)
  | .literal x => some [x]
  | .number field fill => some (numberText m field fill)
  | .word w => some (wordText c m w)
  | .fraction f => some (fractionText c m f)
  | .zone z => zoneText? m.offset z
  | .stamp => some m.stampText
  | .preferred _ => none

def itemsText? (c : Conventions) (m : Moment) : List Item → Option (List Char)
  | [] => some []
  | item :: items => do
    return (← itemText? c m item) ++ (← itemsText? c m items)

/-- A moment shown with a pattern in the words of a locale: the preferred patterns are filled in,
then the items are shown one after another. -/
def render? (c : Conventions) (m : Moment) (pattern : List Char) : Option (List Char) :=
  (items? (expand c pattern)).bind (itemsText? c m)

end LocaleClock.Pattern
