import LocaleClock.Host.Basic
import LocaleClock.Log.Record
import LocaleClock.Report
import LocaleClock.Settings.Basic

/-! The logger. At most one is installed for a run; it keeps the records that its threshold admits
and writes each as one line to where it was told to. -/

namespace LocaleClock.Log

inductive Destination where
  | errorOutput
  | file (path : String)
  deriving DecidableEq, Repr

structure Logger where
  threshold : Threshold
  destination : Destination
  deriving DecidableEq, Repr

inductive SetupError where
  | unknownLevel (text : String)
  | unopenable (path : String) (e : FileError)
  | alreadyInstalled
  deriving DecidableEq, Repr

def SetupError.report : SetupError → Report
  | .unknownLevel text => .plain ("Unknown log level '" ++ text ++ "'")
  | .unopenable path e => .because ("Failed to open log file: " ++ path) e.message
  | .alreadyInstalled =>
    .because "Logger is already initialized"
      "attempted to set a logger after the logging system was already initialized"

def parseLevel (text : String) : Except SetupError Threshold :=
  match Threshold.parse? text with
  | some t => .ok t
  | none => .error (.unknownLevel text)

/-- What the installed logger keeps, nothing when there is none. -/
def currentThreshold (installed : Option Logger) : Threshold :=
  (installed.map Logger.threshold).getD .off

def setupRecord (threshold : Threshold) : Record where
  severity := .debug
  target := "datestamp::logger"
  message := "Logging initialized at level " ++ threshold.name

variable {m : Type → Type} [Monad m] [Host m]

def Destination.addLine (d : Destination) (line : String) : m Unit :=
  match d with
  | .errorOutput => Host.printError (line ++ "\n")
  | .file path => Host.append path (line ++ "\n")

/-- Logs a record: it is written if the logger keeps it. -/
def log (installed : Option Logger) (r : Record) : m Unit :=
  match installed with
  | none => pure ()
  | some l => do
    if l.threshold.admits r.severity then
      l.destination.addLine (r.line (← Host.localTime))

def logAll (installed : Option Logger) (records : List Record) : m Unit :=
  records.forM (log installed)

/-- Logs the records of a value and goes on with the value. -/
def collect {α : Type} (installed : Option Logger) (x : Logged α) : m α := do
  logAll installed x.records
  return x.value

def openDestination (file : Option String) : m (Except SetupError Destination) :=
  match file with
  | none => return .ok .errorOutput
  | some path => do
    match ← Host.openForAppending path with
    | .ok () => return .ok (.file path)
    | .error e => return .error (.unopenable path e)

/-- The threshold that settings ask for. Verbose logging keeps all but traces, whatever the settings
say. -/
def wantedThreshold (s : Settings.Logging) (verbose : Bool) : Except SetupError Threshold :=
  if verbose then .ok (.upTo .debug) else parseLevel s.level

/-- Installs the logger that settings ask for, if they ask for one, and gives the logger that is
installed then. A file is opened before it is found out that a logger is already installed. -/
def setUp (installed : Option Logger) (s : Settings.Logging) (verbose : Bool) :
    m (Except SetupError (Option Logger)) := do
  if !s.enabled && !verbose then return .ok installed
  match wantedThreshold s verbose with
  | .error e => return .error e
  | .ok threshold =>
    match ← openDestination s.file with
    | .error e => return .error e
    | .ok destination =>
      if installed.isSome then return .error .alreadyInstalled
      let logger : Logger := ⟨threshold, destination⟩
      log (some logger) (setupRecord threshold)
      return .ok (some logger)

/-! ### Calls -/

inductive Call where
  | setUp (s : Settings.Logging) (verbose : Bool)
  | log (r : Record)
  deriving DecidableEq

/-- Answers a call, with the logger that is installed afterwards. A failure changes nothing about
the logger. -/
def Call.perform (installed : Option Logger) : Call → m (Option Logger × Except SetupError Unit)
  | .setUp s verbose => do
    match ← Log.setUp installed s verbose with
    | .ok logger => return (logger, .ok ())
    | .error e => return (installed, .error e)
  | .log r => do
    Log.log installed r
    return (installed, .ok ())

end LocaleClock.Log
