/-! Decimal digits: how numbers are written, filled to a width, and read back. -/

namespace LocaleClock.Text

/-- The character of a digit. A value above nine gives the character that many places after
`'0'`. -/
def digit (n : Nat) : Char := Char.ofNat (48 + n)

/-- The decimal digits of a number, at least one. -/
def digits (n : Nat) : List Char := Nat.toDigits 10 n

/-- Fills up on the left to a width. A text that is wide enough stays as it is. -/
def padLeft (width : Nat) (fill : Char) (cs : List Char) : List Char :=
  List.replicate (width - cs.length) fill ++ cs

/-- Fills up with blanks on the right to a width. -/
def padRight (width : Nat) (cs : List Char) : List Char :=
  cs ++ List.replicate (width - cs.length) ' '

def zeroPadded (width n : Nat) : List Char := padLeft width '0' (digits n)

/-- A number of at most two digits, written with both. -/
def twoDigits (n : Nat) : List Char := [digit (n / 10), digit (n % 10)]

def digitValue? (c : Char) : Option Nat :=
  if '0' ≤ c && c ≤ '9' then some (c.toNat - 48) else none

def hexValue? (c : Char) : Option Nat :=
  if '0' ≤ c && c ≤ '9' then some (c.toNat - 48)
  else if 'a' ≤ c && c ≤ 'f' then some (c.toNat - 87)
  else if 'A' ≤ c && c ≤ 'F' then some (c.toNat - 55)
  else none

/-- The number that digits of a base spell, the most significant first. -/
def ofDigitValues (base : Nat) (ds : List Nat) : Nat := ds.foldl (fun n d => n * base + d) 0

theorem digitValue?_digit {n : Nat} (h : n < 10) : digitValue? (digit n) = some n := by
  match n, h with
  | 0, _ | 1, _ | 2, _ | 3, _ | 4, _ | 5, _ | 6, _ | 7, _ | 8, _ | 9, _ => decide

end LocaleClock.Text
