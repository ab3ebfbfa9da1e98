import LocaleClock.Formatter.Basic
import LocaleClock.Text.Quoted

/-! The description of a formatter in diagnostic output, on one line. -/

namespace LocaleClock

open Text

def describeOption {α : Type} (describe : α → String) : Option α → String
  | none => "None"
  | some x => "Some(" ++ describe x ++ ")"

def Customization.describe (c : Customization) : String :=
  "LocaleCustomization \x7b format: " ++ describeOption quoted c.format ++ ", base: " ++
    describeOption quoted c.base ++ " \x7d"

def Registry.describe (r : Registry) : String :=
  "\x7b" ++ ", ".intercalate (r.entries.map fun e => quoted e.1 ++ ": " ++ e.2.describe) ++ "\x7d"

/-- The parts of a formatter but for its clock. -/
def Formatter.describe (f : Formatter) : String :=
  "DateFormatter \x7b pattern: " ++ quoted f.pattern ++ ", default_locale: " ++
    f.defaultLocale.name ++ ", offset: " ++
    describeOption (fun o => String.ofList o.exactText) f.offset ++ ", customizations: " ++
    f.customizations.describe ++ ", .. \x7d"

end LocaleClock
