/-! Why a date could not be formatted as asked. -/

namespace LocaleClock

/-- A cause of failure. Each quotes the text it is about as it was given. -/
inductive FormatError where
  | invalidPattern (pattern : String)
  | unknownLocale (identifier : String)
  | invalidOffset (text : String)
  | unrenderable (pattern : String)
  deriving DecidableEq, Repr

def FormatError.message : FormatError → String
  | .invalidPattern pattern => "Invalid format pattern: '" ++ pattern ++ "'"
  | .unknownLocale identifier => "Unknown locale: '" ++ identifier ++ "'"
  | .invalidOffset text =>
    "Invalid UTC offset '" ++ text ++ "', expected something like +02:00"
  | .unrenderable pattern => "Failed to render date with pattern '" ++ pattern ++ "'"

end LocaleClock
