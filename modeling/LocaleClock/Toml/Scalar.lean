import LocaleClock.Calendar.Date
import LocaleClock.Text.Digits
import LocaleClock.Toml.Value

/-! Values that are written without quotation marks: truth values, numbers, dates and times. Each is
one word. The beginning of a word says what it has to be. Of a whole number in several groups only
the joints are checked here; that there are digits and nothing else matters when it is used. -/

namespace LocaleClock.Toml

open Text

/-! ### Numbers -/

/-- The groups that underscores cut a word into. -/
def groups (cs : List Char) : List (List Char) := cs.splitOnP (· == '_')

/-- Holds of groups with a digit on either side of every joint. -/
def isJoined (isDigit : Char → Bool) : List (List Char) → Bool
  | left :: right :: more =>
    left.getLast?.any isDigit && right.head?.any isDigit && isJoined isDigit (right :: more)
  | _ => true

/-- Holds of the digits of all bases. -/
def isHexDigit (c : Char) : Bool := (hexValue? c).isSome

def digitBelow? (base : Nat) (c : Char) : Option Nat :=
  (hexValue? c).bind fun d => if d < base then some d else none

/-- The values of the digits of a base, with underscores between them. -/
def digitsOf? (base : Nat) (cs : List Char) : Option (List Nat) :=
  (cs.filter (· != '_')).mapM (digitBelow? base)

def takeSign : List Char → Bool × List Char
  | '+' :: rest => (false, rest)
  | '-' :: rest => (true, rest)
  | cs => (false, cs)

/-- A number with the sign that a flag stands for. -/
def signed (negative : Bool) (n : Nat) : Int := if negative then -(n : Int) else n

/-- A whole number after the mark of its base. A mark alone is no number. -/
def markedInteger? (base : Nat) (cs : List Char) : Option Value := do
  if !isJoined isHexDigit (groups cs) then none
  let ds ← digitsOf? base cs
  return if ds.isEmpty then .malformed else .integer (ofDigitValues base ds : Nat)

/-- A whole number in base ten, with or without a sign. Only zero itself starts with zero. -/
def integer? (word : List Char) : Option Value :=
  let (negative, magnitude) := takeSign word
  if magnitude.head? = some '0' ∧ magnitude.length ≠ 1 then none
  else if word.contains ' ' || !isJoined isHexDigit (groups word) then none
  else
    match digitsOf? 10 magnitude with
    | some ds => some (.integer (signed negative (ofDigitValues 10 ds)))
    | none => some .malformed

/-- The digits of a part of a decimal number, at least one. -/
def partDigits? (cs : List Char) : Option (List Nat) := do
  let ds ← digitsOf? 10 cs
  if ds.isEmpty then none else some ds

/-- The digits before the point. Several digits do not start with zero. -/
def wholeDigits? (cs : List Char) : Option (List Nat) := do
  let ds ← partDigits? cs
  if cs.head? = some '0' ∧ ds.length ≠ 1 then none else some ds

/-- The digits before an exponent, with or without a point, as one number and the count of places
after the point. -/
def mantissa? (cs : List Char) : Option (Nat × Nat) :=
  match cs.splitOnP (· == '.') with
  | [whole] => (wholeDigits? whole).map fun ds => (ofDigitValues 10 ds, 0)
  | [whole, places] => do
    let ds ← wholeDigits? whole
    let es ← partDigits? places
    return (ofDigitValues 10 (ds ++ es), es.length)
  | _ => none

def exponent? (cs : List Char) : Option Int :=
  let (negative, magnitude) := takeSign cs
  (partDigits? magnitude).map fun ds => signed negative (ofDigitValues 10 ds)

/-- A number with a point, an exponent or both. -/
def decimal? (word : List Char) : Option Value :=
  if !isJoined Char.isDigit (groups word) then none
  else
    match (takeSign word).2.splitOnP (fun c => c == 'e' || c == 'E') with
    | [mantissa] => do
      let (n, places) ← mantissa? mantissa
      return .decimal n (-places)
    | [mantissa, exponent] => do
      let (n, places) ← mantissa? mantissa
      return .decimal n ((← exponent? exponent) - places)
    | _ => none

/-- A number. A mark says that it is a whole number of another base than ten, a point or an exponent
that it is a decimal one. -/
def numeral? : List Char → Option Value
  | '0' :: 'x' :: rest => markedInteger? 16 rest
  | '0' :: 'o' :: rest => markedInteger? 8 rest
  | '0' :: 'b' :: rest => markedInteger? 2 rest
  | word =>
    let magnitude := (takeSign word).2
    let rest := magnitude.dropWhile Char.isDigit
    if rest.any fun c => c == '.' || c == 'e' || c == 'E' then decimal? word
    else if magnitude ≠ [] ∧ (rest = [] ∨ rest.head? = some '_') then integer? word
    else none

/-! ### Dates and times -/

def number? (cs : List Char) : Option Nat := (cs.mapM digitValue?).map (ofDigitValues 10)

def date? : List Char → Option (List Char)
  | y₃ :: y₂ :: y₁ :: y₀ :: '-' :: m₁ :: m₀ :: '-' :: d₁ :: d₀ :: rest => do
    let year ← number? [y₃, y₂, y₁, y₀]
    let month ← number? [m₁, m₀]
    let day ← number? [d₁, d₀]
    if (Date.mk year month day).isValid then some rest else none
  | _ => none

def hourMinute? : List Char → Option (List Char)
  | h₁ :: h₀ :: ':' :: m₁ :: m₀ :: rest => do
    let hour ← number? [h₁, h₀]
    let minute ← number? [m₁, m₀]
    if hour < 24 ∧ minute < 60 then some rest else none
  | _ => none

/-- Reads seconds up to 60, and a fraction, where there are any. -/
def second? : List Char → Option (List Char)
  | ':' :: s₁ :: s₀ :: rest => do
    let second ← number? [s₁, s₀]
    if 60 < second then none
    match rest with
    | '.' :: places =>
      if places.takeWhile Char.isDigit = [] then none else some (places.dropWhile Char.isDigit)
    | _ => some rest
  | ':' :: _ => none
  | cs => some cs

def zone? : List Char → Option (List Char)
  | [] => some []
  | 'Z' :: rest | 'z' :: rest => some rest
  | '+' :: rest | '-' :: rest => hourMinute? rest
  | _ => none

def isTime (cs : List Char) : Bool := (hourMinute? cs).bind second? == some []

/-- Holds of a time of day with or without an offset. -/
def isZonedTime (cs : List Char) : Bool :=
  ((hourMinute? cs).bind second?).bind zone? == some []

/-- Holds of a date, a time of day, or both with a `T` or a blank between. -/
def isDateTime (cs : List Char) : Bool :=
  match date? cs with
  | none => isTime cs
  | some [] => true
  | some (c :: rest) => (c == 'T' || c == 't' || c == ' ') && isZonedTime rest

/-! ### Words -/

def isWordChar (c : Char) : Bool := !("=,[]\x7b\x7d \t#\r\n".toList.contains c)

def isMark (c : Char) : Bool := c == '"' || c == '\''

/-- Cuts off a word. Blanks belong to it when it goes on after them with more than a quoted text. -/
def takeWord : List Char → List Char × List Char
  | [] => ([], [])
  | c :: cs =>
    if isWordChar c then
      let (word, rest) := takeWord cs
      (c :: word, rest)
    else if c == ' ' || c == '\t' then
      match takeWord cs with
      | (d :: word, rest) => if isMark d then ([], c :: cs) else (c :: d :: word, rest)
      | ([], _) => ([], c :: cs)
    else ([], c :: cs)

def ofWord? (word : List Char) : Option Value :=
  let name := (takeSign word).2
  if word = "true".toList then some (.boolean true)
  else if word = "false".toList then some (.boolean false)
  else if name = "inf".toList ∨ name = "nan".toList then some .notFinite
  else if isDateTime word then some .dateTime
  else numeral? word

/-- Reads a value that is written without quotation marks. -/
def scalar? (cs : List Char) : Option (Value × List Char) :=
  let (word, rest) := takeWord cs
  (ofWord? word).map fun v => (v, rest)

end LocaleClock.Toml
