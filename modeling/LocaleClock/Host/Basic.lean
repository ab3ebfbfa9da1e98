import LocaleClock.Calendar.Moment

/-! What the program asks of the host it runs on: the time and the time zone, three places, files
named by paths, and two streams to write to. Everything the program does goes through this
interface, so it runs on a real host as well as on a value that describes one. -/

namespace LocaleClock

inductive FileError where
  | notFound | isDirectory | notDirectory | alreadyExists | nameTooLong
  /-- The path holds a character that no path can hold. -/
  | invalidPath
  /-- The content is no text. -/
  | notText
  | other (text : String)
  deriving DecidableEq, Repr

def FileError.message : FileError → String
  | .notFound => "No such file or directory (os error 2)"
  | .isDirectory => "Is a directory (os error 21)"
  | .notDirectory => "Not a directory (os error 20)"
  | .alreadyExists => "File exists (os error 17)"
  | .nameTooLong => "File name too long (os error 36)"
  | .invalidPath => "file name contained an unexpected NUL byte"
  | .notText => "stream did not contain valid UTF-8"
  | .other text => text

class Host (m : Type → Type) where
  /-- The time on the host's clock. -/
  now : m Instant
  /-- The time zone that the host shows times in. -/
  timeZone : m TimeZone
  /-- The directory of the user. -/
  home : m String
  /-- The directory that the user has named for settings. -/
  configHome : m (Option String)
  /-- Whether there is a file or a directory. -/
  pathExists : String → m Bool
  /-- The text of a file. -/
  readText : String → m (Except FileError String)
  /-- Whether there is a directory. -/
  isDirectory : String → m Bool
  /-- Makes a directory in one that is there. -/
  makeDirectory : String → m (Except FileError Unit)
  /-- Gives a file a new text; a missing file is made. -/
  writeText : String → String → m (Except FileError Unit)
  /-- Makes sure that text can be added to a file; a missing file is made. -/
  openForAppending : String → m (Except FileError Unit)
  /-- Adds text to the end of a file. -/
  append : String → String → m Unit
  /-- Writes to standard output. -/
  print : String → m Unit
  /-- Writes to standard error. -/
  printError : String → m Unit

def Host.localTime {m : Type → Type} [Monad m] [Host m] : m Moment := do
  let t ← Host.now
  return .of t ((← Host.timeZone) t)

end LocaleClock
