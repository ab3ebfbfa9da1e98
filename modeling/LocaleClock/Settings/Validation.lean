import LocaleClock.Log.Level
import LocaleClock.Report
import LocaleClock.Settings.Basic

/-! Which settings can be used. The conditions are looked at in a fixed order and the first that
does not hold is the fault. -/

namespace LocaleClock.Settings

inductive Fault where
  | format (e : FormatError)
  | defaultLocale (e : FormatError)
  | utcOffset (e : FormatError)
  | blankIdentifier
  | localeFormat (identifier : String) (e : FormatError)
  | localeBase (identifier : String) (e : FormatError)
  | level (name : String)
  deriving DecidableEq, Repr

/-- The names a level may have in settings, in small letters. -/
def levelNames : List String :=
  Log.Threshold.all.map fun t => String.ofList (Text.asciiLower t.name.toList)

def Fault.report : Fault → Report
  | .format e => .because "Invalid [formatter] format" e.message
  | .defaultLocale e => .because "Invalid [formatter] default_locale" e.message
  | .utcOffset e => .because "Invalid [formatter] utc_offset" e.message
  | .blankIdentifier => .plain "Locale identifiers in [locales] cannot be empty"
  | .localeFormat identifier e =>
    .because ("Locale '" ++ identifier ++ "': invalid format") e.message
  | .localeBase identifier e => .because ("Locale '" ++ identifier ++ "': invalid base") e.message
  | .level name =>
    .plain ("Invalid [logging] level '" ++ name ++ "', expected one of: " ++
      ", ".intercalate levelNames)

/-- Takes a value only for its success. -/
def accept {α : Type} (fault : FormatError → Fault) (x : Except FormatError α) :
    Except Fault Unit :=
  match x with
  | .ok _ => .ok ()
  | .error e => .error (fault e)

/-- A value that may be missing is accepted when it is. -/
def acceptOption {α β : Type} (fault : FormatError → Fault) (check : α → Except FormatError β) :
    Option α → Except Fault Unit
  | none => .ok ()
  | some x => accept fault (check x)

/-- Accepts a customization: its identifier is not blank, its format can be used and its base means
a locale. -/
def validateSection (identifier : String) (c : Customization) : Except Fault Unit := do
  if Text.allBlank identifier.toList then throw .blankIdentifier
  acceptOption (.localeFormat identifier) Pattern.validate c.format
  acceptOption (.localeBase identifier) Locale.resolve c.base

/-- Accepts a level name in any case, without white space around it. -/
def validateLevel (name : String) : Except Fault Unit :=
  if (Log.Threshold.ofName? name).isSome then .ok () else .error (.level name)

/-- Accepts the settings that can be used. -/
def validate (s : Settings) : Except Fault Unit := do
  accept .format (Pattern.validate s.formatting.format)
  accept .defaultLocale (Locale.resolve s.formatting.defaultLocale)
  acceptOption .utcOffset Offset.parse s.formatting.utcOffset
  s.locales.entries.forM fun e => validateSection e.1 e.2
  validateLevel s.logging.level

end LocaleClock.Settings
