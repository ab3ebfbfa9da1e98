import LocaleClock.CommandLine.Arguments
import LocaleClock.Formatter.Formatting
import LocaleClock.Report

/-! Options that change the formatter of the settings. They are looked at like their counterparts in
a settings file, the format before the offset. -/

namespace LocaleClock

inductive OverrideError where
  | format (e : FormatError)
  | offset (e : FormatError)
  deriving DecidableEq, Repr

def OverrideError.report : OverrideError → Report
  | .format e => .because "Invalid --format" e.message
  | .offset e => .because "Invalid --offset" e.message

namespace Formatter

def overrideFormat (f : Formatter) : Option String → Except OverrideError Formatter
  | none => .ok f
  | some pattern =>
    match Pattern.validate pattern with
    | .ok () => .ok (f.withPattern pattern)
    | .error e => .error (.format e)

def overrideOffset (f : Formatter) : Option String → Except OverrideError Formatter
  | none => .ok f
  | some text =>
    match Offset.parse text with
    | .ok o => .ok (f.withOffset o)
    | .error e => .error (.offset e)

/-- The formatter with the options of a command line. -/
def override (f : Formatter) (a : CommandLine.Arguments) : Except OverrideError Formatter := do
  (← f.overrideFormat a.format).overrideOffset a.offset

end Formatter

end LocaleClock
