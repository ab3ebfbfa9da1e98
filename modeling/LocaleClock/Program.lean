import LocaleClock.CommandLine.Help
import LocaleClock.CommandLine.Overrides
import LocaleClock.Formatter.Description
import LocaleClock.Log.Logger
import LocaleClock.Settings.Loading

/-! The program: it reads its command line, loads settings, sets up logging and prints the current
date and time for a locale. It ends at the first failure, before anything is printed. What it takes
from libraries is arbitrary: the table of conventions, and the wording of two kinds of errors. -/

namespace LocaleClock.Program

open CommandLine (Arguments)

/-- What the program takes from libraries. -/
structure Libraries where
  /-- What locales say about dates. -/
  conventions : Locale → Locale.Conventions
  /-- What is written about words that are no command line. -/
  usageText : List String → CommandLine.UsageError → String
  /-- What is wrong with a text that is no document. -/
  documentCause : String → String

/-- The sample table, without the wording of errors. -/
def Libraries.sample : Libraries where
  conventions := Locale.sample
  usageText _ _ := ""
  documentCause _ := ""

inductive Failure where
  | generating (e : Settings.GenerateError)
  | loading (e : Settings.LoadError)
  | logging (e : Log.SetupError)
  | formatter (e : FormatError)
  | overriding (e : OverrideError)
  deriving DecidableEq, Repr

def Failure.report (lib : Libraries) : Failure → Report
  | .generating e => e.report
  | .loading e => e.reportBy lib.documentCause
  | .logging e => e.report.within "Failed to initialize logging"
  | .formatter e => .because "Failed to build formatter from config" e.message
  | .overriding e => e.report

def failing {ε α : Type} (failure : ε → Failure) : Except ε α → Except Failure α
  | .ok x => .ok x
  | .error e => .error (failure e)

/-- The formatter of a run: the one of the settings with the options of the command line. -/
def formatterOf (s : Settings) (a : Arguments) : Except Failure Formatter := do
  let f ← failing .formatter (Formatter.ofSettings s)
  failing .overriding (f.override a)

def startRecord (locale : String) (f : Formatter) : Log.Record where
  severity := .debug
  target := "datestamp"
  message := "Formatting current date for locale '" ++ locale ++ "' with " ++ f.describe

variable {m : Type → Type} [Monad m] [Host m]

def showDate (lib : Libraries) (logger : Option Log.Logger) (f : Formatter) (locale : String) :
    m Unit := do
  Log.log logger (startRecord locale f)
  let t ← Host.now
  let text ← Log.collect logger (f.currentBy lib.conventions (← Host.timeZone) t locale)
  Host.print (text ++ "\n")

def showWith (lib : Libraries) (s : Settings) (a : Arguments) : m (Except Failure Unit) := do
  match ← Log.setUp none s.logging a.debug with
  | .error e => return .error (.logging e)
  | .ok logger =>
    match formatterOf s a with
    | .error e => return .error e
    | .ok f =>
      showDate lib logger f (a.locale.getD s.formatting.defaultLocale)
      return .ok ()

def perform (lib : Libraries) (a : Arguments) : m (Except Failure Unit) := do
  match a.generateConfig with
  | some path => return failing .generating (← Settings.generate path)
  | none =>
    match ← Settings.load a.config with
    | .error e => return .error (.loading e)
    | .ok s => showWith lib s a

/-- Runs the program on the words of a command line and gives its exit code. -/
def runBy (lib : Libraries) (words : List String) : m Nat := do
  match CommandLine.parse words with
  | .error .help =>
    Host.print CommandLine.helpText
    return 0
  | .error .version =>
    Host.print CommandLine.versionText
    return 0
  | .error (.usage e) =>
    Host.printError (lib.usageText words e)
    return 2
  | .ok a =>
    match ← perform lib a with
    | .ok () => return 0
    | .error failure =>
      Host.printError (failure.report lib).text
      return 1

def run (words : List String) : m Nat := runBy .sample words

end LocaleClock.Program
