import LocaleClock.Formatter.Formatting
import LocaleClock.Settings.Sections

/-! The settings of the program: how dates are shown, what differs for single locales, and what is
logged. Settings are plain texts; whether they can be used is decided by validation. -/

namespace LocaleClock

namespace Settings

structure Formatting where
  format : String
  defaultLocale : String
  utcOffset : Option String
  deriving DecidableEq, Repr

structure Logging where
  enabled : Bool
  level : String
  /-- The file that log lines are added to, standard error when there is none. -/
  file : Option String
  deriving DecidableEq, Repr

end Settings

structure Settings where
  formatting : Settings.Formatting
  locales : Settings.Sections
  logging : Settings.Logging
  deriving DecidableEq

namespace Settings

def Formatting.standard : Formatting where
  format := Formatter.defaultPattern
  defaultLocale := "en_US"
  utcOffset := none

def Logging.standard : Logging where
  enabled := false
  level := "info"
  file := none

def standard : Settings where
  formatting := .standard
  locales := .empty
  logging := .standard

end Settings

/-- The formatter that settings describe: the default locale is looked up first, then the offset is
read, then the customizations are registered in order of their identifiers. -/
def Formatter.ofSettings (s : Settings) : Except FormatError Formatter := do
  let f ← (initial.withPattern s.formatting.format).withDefaultLocale s.formatting.defaultLocale
  let f ← match s.formatting.utcOffset with
    | none => pure f
    | some text => (Offset.parse text).map f.withOffset
  return s.locales.entries.foldl (fun f e => f.register e.1 e.2) f

end LocaleClock
