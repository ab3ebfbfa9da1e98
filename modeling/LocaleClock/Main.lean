import LocaleClock.Program
import Std.Time.Zoned

/-! The program on a real host. -/

namespace LocaleClock.Main

def fileError : IO.Error → FileError
  | .noFileOrDirectory .. => .notFound
  | .alreadyExists .. => .alreadyExists
  | .inappropriateType _ 20 _ => .notDirectory
  | .inappropriateType .. => .isDirectory
  | .invalidArgument _ 36 _ => .nameTooLong
  | e => .other (toString e)

/-- Runs an action on the file at a path and gives its failure as a value. -/
def attempt {α : Type} (path : String) (action : IO α) : IO (Except FileError α) := do
  if !Path.isValid path then return .error .invalidPath
  try
    return .ok (← action)
  catch e =>
    return .error (fileError e)

/-- The time on the system's clock, the start of 1970 if that is no instant. -/
def systemTime : IO Instant := do
  let t ← Std.Time.Timestamp.now
  return (Instant.of? t.val.second.val t.val.nano.val.toNat).getD ⟨0, 0, by decide⟩

/-- The time zone of the system, Coordinated Universal Time if its rules cannot be read. -/
def systemTimeZone : IO TimeZone := do
  try
    let rules ← Std.Time.Database.defaultGetLocalZoneRules
    return fun t =>
      let zone := rules.timezoneAt (.ofSecondsSinceUnixEpoch (.ofInt t.seconds))
      (Offset.ofSeconds? zone.offset.second.val).getD .utc
  catch _ => return .utc

def readBytes (path : String) : IO ByteArray := do
  (← IO.FS.Handle.mk path .read).readBinToEnd

def readText (path : String) : IO (Except FileError String) := do
  match ← attempt path (readBytes path) with
  | .error e => return .error e
  | .ok bytes =>
    match String.fromUTF8? bytes with
    | some text => return .ok text
    | none => return .error .notText

def append (path text : String) : IO Unit := do
  (← IO.FS.Handle.mk path .append).putStr text

instance : Host IO where
  now := systemTime
  timeZone := systemTimeZone
  home := return (← IO.getEnv "HOME").getD ""
  configHome := IO.getEnv "XDG_CONFIG_HOME"
  pathExists path := do
    match ← attempt path (readBytes path) with
    | .error .notFound | .error .notDirectory => return false
    | .error .nameTooLong | .error .invalidPath => return false
    | _ => return true
  readText := readText
  isDirectory path := do
    match ← attempt path (readBytes path) with
    | .error .isDirectory => return true
    | _ => return false
  makeDirectory path := attempt path (IO.FS.createDir path)
  writeText path text := attempt path (IO.FS.writeFile path text)
  openForAppending path := attempt path (append path "")
  append path text := do
    let _ ← attempt path (append path text)
  print text := do
    (← IO.getStdout).putStr text
  printError text := do
    (← IO.getStderr).putStr text

end LocaleClock.Main

def main (words : List String) : IO UInt32 := do
  return (← LocaleClock.Program.run words : Nat).toUInt32
