import LocaleClock.Host.Directories
import LocaleClock.Settings.Template
import LocaleClock.Settings.Validation

/-! Where settings come from. A file that is named has to be there; otherwise the file in the
current directory is used, then the one in the user's directory for settings, and the standard
settings when there is neither. A file that is there but cannot be used is an error, never passed
over. -/

namespace LocaleClock.Settings

inductive LoadError where
  | unreadable (path : String) (e : FileError)
  | malformed (path text : String)
  | invalid (fault : Fault)
  deriving DecidableEq, Repr

/-- What a failure is reported as. What is wrong with a text that is no document, its reader
says. -/
def LoadError.reportBy (cause : String → String) : LoadError → Report
  | .unreadable path e => .because ("Failed to read config file: " ++ path) e.message
  | .malformed path text => .because ("Failed to parse config file: " ++ path) (cause text)
  | .invalid fault => fault.report

/-- The report without what the reader of documents says. -/
def LoadError.report (e : LoadError) : Report := e.reportBy fun _ => ""

inductive GenerateError where
  | directory (path : String) (e : FileError)
  | file (path : String) (e : FileError)
  deriving DecidableEq, Repr

def GenerateError.report : GenerateError → Report
  | .directory path e => .because ("Failed to create config directory: " ++ path) e.message
  | .file path e => .because ("Failed to write config file: " ++ path) e.message

def ofText (path text : String) : Except LoadError Settings :=
  match parse? text with
  | none => .error (.malformed path text)
  | some s =>
    match s.validate with
    | .ok () => .ok s
    | .error fault => .error (.invalid fault)

def localPath : String := "datestamp.toml"

/-- The user's directory for settings: the one that is named if that is an absolute path, else the
usual one in the user's own directory. -/
def configDirectory (home : String) (named : Option String) : String :=
  match named with
  | some path => if Path.isAbsolute path then path else Path.join home ".config"
  | none => Path.join home ".config"

/-- The file in the user's directory for settings. -/
def userPath (home : String) (named : Option String) : String :=
  Path.join (Path.join (configDirectory home named) "datestamp") "config.toml"

variable {m : Type → Type} [Monad m] [Host m]

def loadFrom (path : String) : m (Except LoadError Settings) := do
  match ← Host.readText path with
  | .ok text => return ofText path text
  | .error e => return .error (.unreadable path e)

def currentUserPath : m String := return userPath (← Host.home) (← Host.configHome)

/-- The file to load when none is named. -/
def findFile : m (Option String) := do
  if ← Host.pathExists localPath then return some localPath
  let path ← currentUserPath
  if ← Host.pathExists path then return some path
  return none

/-- Loads the named file, or the one that is found. -/
def load (named : Option String) : m (Except LoadError Settings) := do
  match named with
  | some path => loadFrom path
  | none =>
    match ← findFile with
    | some path => loadFrom path
    | none => return .ok standard

def makeParent (path : String) : m (Except GenerateError Unit) := do
  match Path.parent? path with
  | none => return .ok ()
  | some parent =>
    match ← Host.makeDirectories parent with
    | .ok () => return .ok ()
    | .error e => return .error (.directory parent e)

/-- Writes a file with the standard settings and says so. The empty path stands for the file in the
user's directory for settings. -/
def generate (path : String) : m (Except GenerateError Unit) := do
  let path ← if path.isEmpty then currentUserPath else pure path
  let date := (← Host.localTime).dateText
  match ← makeParent path with
  | .error e => return .error e
  | .ok () =>
    match ← Host.writeText path (template date) with
    | .error e => return .error (.file path e)
    | .ok () =>
      Host.print ("✅ Generated default configuration file: " ++ path ++ "\n")
      return .ok ()

end LocaleClock.Settings
