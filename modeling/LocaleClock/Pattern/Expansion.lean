import LocaleClock.Locale.Conventions
import LocaleClock.Pattern.Reader

/-! The patterns that a locale prefers. Before a pattern is shown, each specifier of a preferred
pattern in it is replaced by the locale's own pattern, in which further ones may be nested. -/

namespace LocaleClock.Pattern

open LocaleClock.Locale

def preferred? : Char → Option Preferred
  | 'c' => some .dateTime
  | 'x' => some .date
  | 'X' => some .time
  | 'r' => some .dialTime
  | _ => none

/-- The preferred patterns of a locale that has none of its own. -/
def Preferred.fallback : Preferred → String
  | .dateTime => "%a %b %e %T %Y"
  | .date => "%m/%d/%y"
  | .time => "%H:%M:%S"
  | .dialTime => "%I:%M:%S %p"

/-- The pattern that the conventions give, which may be blank. -/
def Preferred.given (c : Conventions) : Preferred → String
  | .dateTime => c.dateTime
  | .date => c.date
  | .time => c.time
  | .dialTime => c.dialTime

def Preferred.pattern (c : Conventions) (p : Preferred) : List Char :=
  let given := (p.given c).toList
  if Text.allBlank given then p.fallback.toList else given

/-- Replaces the specifiers of preferred patterns. The character after a percent sign is never
taken for the start of a specifier. -/
def substitute (own : Preferred → List Char) : List Char → List Char
  | '%' :: s :: rest =>
    match preferred? s with
    | some p => own p ++ substitute own rest
    | none => '%' :: s :: substitute own rest
  | c :: rest => c :: substitute own rest
  | [] => []

/-- Replaces preferred patterns that are nested up to a depth. -/
def expandTo (c : Conventions) : Nat → List Char → List Char
  | 0, pattern => pattern
  | depth + 1, pattern => substitute (fun p => expandTo c depth (p.pattern c)) pattern

/-- Preferred patterns may be nested this deep. -/
def maxNesting : Nat := 4

/-- A pattern with the preferred patterns of a locale filled in. -/
def expand (c : Conventions) (pattern : List Char) : List Char := expandTo c maxNesting pattern

end LocaleClock.Pattern
