import LocaleClock.FormatError
import LocaleClock.Text.Ascii
import LocaleClock.Text.Blank
import LocaleClock.Text.Digits

/-! Offsets from Coordinated Universal Time, less than a day either way: how they are read and the
forms they are written in. -/

namespace LocaleClock

/-- Seconds east of Coordinated Universal Time. -/
structure Offset where
  seconds : Int
  inDay : -86400 < seconds ∧ seconds < 86400
  deriving DecidableEq

namespace Offset

open Text

def utc : Offset := ⟨0, by decide⟩

/-- The offset of a number of seconds, when that is less than a day. -/
def ofSeconds? (seconds : Int) : Option Offset :=
  if h : -86400 < seconds ∧ seconds < 86400 then some ⟨seconds, h⟩ else none

/-! ### Reading -/

/-- The sign that an offset starts with: the minus sign may be the hyphen or U+2212. -/
def sign? (c : Char) : Option Int :=
  if c = '+' then some 1 else if c = '-' ∨ c = '\u2212' then some (-1) else none

/-- What may stand, any number of times, between the hours and the minutes. -/
def isSeparator (c : Char) : Bool := c == ':' || isBlank c

/-- The number that two decimal digits spell. -/
def twoDigits? (tens ones : Char) : Option Nat := do
  return 10 * (← digitValue? tens) + (← digitValue? ones)

/-- Reads a sign, two digits of hours, separators and two digits of minutes below sixty. What
follows the minutes is not looked at. -/
def signed? : List Char → Option Offset
  | sign :: h₁ :: h₀ :: rest => do
    let sign ← sign? sign
    let hours ← twoDigits? h₁ h₀
    match rest.dropWhile isSeparator with
    | m₁ :: m₀ :: _ =>
      let minutes ← twoDigits? m₁ m₀
      if minutes < 60 then ofSeconds? (sign * (hours * 3600 + minutes * 60 : Nat)) else none
    | _ => none
  | _ => none

/-- Reads an offset: `Z`, `UTC` in any case, or a signed form, with white space around it. -/
def parse? (text : String) : Option Offset :=
  let cs := trim text.toList
  if sameLetters cs ['z'] || sameLetters cs ['u', 't', 'c'] then some utc else signed? cs

def parse (text : String) : Except FormatError Offset :=
  match parse? text with
  | some o => .ok o
  | none => .error (.invalidOffset text)

/-! ### Writing -/

def size (o : Offset) : Nat := o.seconds.natAbs

/-- The sign an offset is written with; zero is positive. -/
def signChar (o : Offset) : Char := if o.seconds < 0 then '-' else '+'

/-- The size in minutes, rounded to the nearest with halves up. -/
def roundedMinutes (o : Offset) : Nat := (o.size + 30) / 60

/-- Hours and minutes to the nearest minute, without a separator. -/
def plainText (o : Offset) : List Char :=
  o.signChar :: twoDigits (o.roundedMinutes / 60) ++ twoDigits (o.roundedMinutes % 60)

/-- Hours and minutes to the nearest minute, with a colon between. -/
def colonText (o : Offset) : List Char :=
  o.signChar :: twoDigits (o.roundedMinutes / 60) ++ ':' :: twoDigits (o.roundedMinutes % 60)

def hoursText (o : Offset) : List Char := o.signChar :: twoDigits (o.size / 3600)

def fullText (o : Offset) : List Char :=
  o.signChar :: twoDigits (o.size / 3600) ++ ':' :: twoDigits (o.size / 60 % 60) ++
    ':' :: twoDigits (o.size % 60)

/-- The exact offset: hours and minutes, and the seconds where there are any. -/
def exactText (o : Offset) : List Char :=
  if o.size % 60 = 0 then
    o.signChar :: twoDigits (o.size / 3600) ++ ':' :: twoDigits (o.size / 60 % 60)
  else o.fullText

end Offset

end LocaleClock
