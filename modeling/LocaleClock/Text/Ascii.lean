/-! Case of ASCII letters. Identifiers, level names and offsets are compared this way: a letter
outside ASCII is equal to itself alone. -/

namespace LocaleClock.Text

/-- Lower-cases the letters `A` to `Z`. -/
def asciiLower (cs : List Char) : List Char := cs.map Char.toLower

/-- Upper-cases the letters `a` to `z`. -/
def asciiUpper (cs : List Char) : List Char := cs.map Char.toUpper

/-- Equality up to the case of ASCII letters. -/
def sameLetters (s t : List Char) : Bool := asciiLower s == asciiLower t

end LocaleClock.Text
