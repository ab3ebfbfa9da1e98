import LocaleClock.Text.Ascii
import LocaleClock.Text.Blank
import LocaleClock.Text.Fields

/-! Locale identifiers as people write them. The normal form of an identifier is a language in small
letters, followed by an underscore and a region in capitals if the identifier has one; everything
else it says is dropped. -/

namespace LocaleClock.Locale

open Text

/-- A code set or a modifier starts here. -/
def startsSuffix (c : Char) : Bool := c == '.' || c == '@'

def separatesSubtags (c : Char) : Bool := c == '-' || c == '_'

/-- A region is two letters or three digits; any other subtag is a script or a variant. -/
def isRegion (subtag : List Char) : Bool :=
  (subtag.length == 2 && subtag.all Char.isAlpha) ||
    (subtag.length == 3 && subtag.all Char.isDigit)

/-- The subtags of an identifier, without empty ones and without what a suffix says. -/
def subtags (cs : List Char) : List (List Char) :=
  ((firstField startsSuffix (trim cs)).splitOnP separatesSubtags).filter fun f => !f.isEmpty

/-- The normal form: the first subtag is the language, the last region among the others is the
region. Empty when there is no subtag. -/
def normalForm (cs : List Char) : List Char :=
  match subtags cs with
  | [] => []
  | language :: others =>
    match (others.filter isRegion).getLast? with
    | none => asciiLower language
    | some region => asciiLower language ++ '_' :: asciiUpper region

def normalize (identifier : String) : String := String.ofList (normalForm identifier.toList)

/-- The language of an identifier in normal form, or of a locale name. -/
def languageOf (cs : List Char) : List Char := firstField (· == '_') cs

end LocaleClock.Locale
