import LocaleClock.FormatError
import LocaleClock.Pattern.Item
import LocaleClock.Text.Blank

/-! Reading patterns. A percent sign starts a specifier; every other character stands for itself. A
pattern is understood when each percent sign in it starts a specifier that is complete. -/

namespace LocaleClock.Pattern

/-- The specifiers of numbers, with the way they are filled when no flag is given. Only these may
follow a flag. -/
def numberOf? : Char → Option (Field × Fill)
  | 'Y' => some (.year, .zeros)
  | 'C' => some (.century, .zeros)
  | 'y' => some (.yearOfCentury, .zeros)
  | 'G' => some (.isoYear, .zeros)
  | 'g' => some (.isoYearOfCentury, .zeros)
  | 'V' => some (.isoWeek, .zeros)
  | 'q' => some (.quarter, .zeros)
  | 'm' => some (.month, .zeros)
  | 'd' => some (.day, .zeros)
  | 'e' => some (.day, .blanks)
  | 'j' => some (.dayOfYear, .zeros)
  | 'U' => some (.weekFromSunday, .zeros)
  | 'W' => some (.weekFromMonday, .zeros)
  | 'w' => some (.weekday, .zeros)
  | 'u' => some (.isoWeekday, .zeros)
  | 'H' => some (.hour, .zeros)
  | 'k' => some (.hour, .blanks)
  | 'I' => some (.dialHour, .zeros)
  | 'l' => some (.dialHour, .blanks)
  | 'M' => some (.minute, .zeros)
  | 'S' => some (.second, .zeros)
  | 'f' => some (.nanosecond, .zeros)
  | 's' => some (.timestamp, .none)
  | _ => none

def flag? : Char → Option Fill
  | '-' => some .none
  | '_' => some .blanks
  | '0' => some .zeros
  | _ => none

def joined (first : Field × Fill) (sep : Char) (second : Field × Fill) (third : Field × Fill) :
    List Item :=
  [.number first.1 first.2, .literal sep, .number second.1 second.2, .literal sep,
   .number third.1 third.2]

/-- The specifiers of one letter that are not numbers. Some are short for several items. -/
def letter? : Char → Option (List Item)
  | '%' => some [.literal '%']
  | 'n' => some [.literal '\n']
  | 't' => some [.literal '\t']
  | 'a' => some [.word .shortWeekday]
  | 'A' => some [.word .weekday]
  | 'b' | 'h' => some [.word .shortMonth]
  | 'B' => some [.word .month]
  | 'p' => some [.word .dayHalf]
  | 'P' => some [.word .dayHalfSmall]
  | 'D' => some (joined (.month, .zeros) '/' (.day, .zeros) (.yearOfCentury, .zeros))
  | 'F' => some (joined (.year, .zeros) '-' (.month, .zeros) (.day, .zeros))
  | 'T' => some (joined (.hour, .zeros) ':' (.minute, .zeros) (.second, .zeros))
  | 'R' => some [.number .hour .zeros, .literal ':', .number .minute .zeros]
  | 'v' =>
    some [.number .day .blanks, .literal '-', .word .shortMonth, .literal '-',
          .number .year .zeros]
  | 'c' => some [.preferred .dateTime]
  | 'x' => some [.preferred .date]
  | 'X' => some [.preferred .time]
  | 'r' => some [.preferred .dialTime]
  | 'z' => some [.zone .plain]
  | 'Z' => some [.zone .name]
  | '+' => some [.stamp]
  | _ => none

def single? (c : Char) : Option (List Item) :=
  match numberOf? c with
  | some (field, fill) => some [.number field fill]
  | none => letter? c

/-- Reads what follows a percent sign: the items of the specifier and the rest of the text. -/
def specifier? : List Char → Option (List Item × List Char)
  | [] => none
  | ':' :: 'z' :: rest => some ([.zone .colon], rest)
  | ':' :: ':' :: 'z' :: rest => some ([.zone .full], rest)
  | ':' :: ':' :: ':' :: 'z' :: rest => some ([.zone .hours], rest)
  | '#' :: 'z' :: rest => some ([.zone .lenient], rest)
  | '.' :: 'f' :: rest => some ([.fraction .asNeeded], rest)
  | '.' :: '3' :: 'f' :: rest => some ([.fraction (.pointed 3)], rest)
  | '.' :: '6' :: 'f' :: rest => some ([.fraction (.pointed 6)], rest)
  | '.' :: '9' :: 'f' :: rest => some ([.fraction (.pointed 9)], rest)
  | '3' :: 'f' :: rest => some ([.fraction (.bare 3)], rest)
  | '6' :: 'f' :: rest => some ([.fraction (.bare 6)], rest)
  | '9' :: 'f' :: rest => some ([.fraction (.bare 9)], rest)
  | c :: rest =>
    match flag? c, rest with
    | some fill, d :: rest => (numberOf? d).map fun n => ([.number n.1 fill], rest)
    | some _, [] => none
    | none, rest => (single? c).map fun items => (items, rest)

theorem length_lt_of_specifier? {cs rest : List Char} {items : List Item}
    (h : specifier? cs = some (items, rest)) : rest.length < cs.length := by
  unfold specifier? at h
  split at h
  case h_1 => cases h
  case h_13 c rest' _ _ _ _ _ _ _ _ _ _ _ =>
    split at h
    · obtain ⟨n, -, hn⟩ := Option.map_eq_some_iff.1 h
      cases hn; simp only [List.length_cons]; omega
    · cases h
    · obtain ⟨i, -, hi⟩ := Option.map_eq_some_iff.1 h
      cases hi; simp
  all_goals
    cases h
    simp only [List.length_cons]
    omega

/-- The items of a pattern, none when some percent sign starts no complete specifier. -/
def items? : List Char → Option (List Item)
  | [] => some []
  | '%' :: rest =>
    match _h : specifier? rest with
    | none => none
    | some (items, rest') => (items? rest').map (items ++ ·)
  | c :: rest => (items? rest).map (.literal c :: ·)
termination_by cs => cs.length
decreasing_by
  · have := length_lt_of_specifier? _h
    simp only [List.length_cons]
    omega
  · simp

/-- Holds of the patterns that can be used: some character is not white space, and every specifier
is understood. -/
def isUsable (pattern : List Char) : Bool := !Text.allBlank pattern && (items? pattern).isSome

def validate (pattern : String) : Except FormatError Unit :=
  if isUsable pattern.toList then .ok () else .error (.invalidPattern pattern)

end LocaleClock.Pattern
