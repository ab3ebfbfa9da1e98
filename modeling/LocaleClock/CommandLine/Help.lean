import LocaleClock.CommandLine.Arguments
import LocaleClock.Text.Digits

/-! What the program says about itself. The help text has a line for each argument, with what the
argument is for in a column of its own. -/

namespace LocaleClock.CommandLine

def versionText : String := "datestamp 0.1.0\n"

/-- How an argument is written and what it is for. -/
structure HelpEntry where
  spelling : String
  purpose : String

def positionalEntries : List HelpEntry := [
  ⟨"[LOCALE]", "Locale identifier such as en, de or pt-BR (default: configured default locale)"⟩]

def optionEntries : List HelpEntry := [
  ⟨"-f, --format <PATTERN>", "strftime-style pattern overriding the configured format"⟩,
  ⟨"    --offset <+HH:MM>", "Render in a fixed UTC offset instead of the local time zone"⟩,
  ⟨"-c, --config <FILE>", "Sets a custom configuration file"⟩,
  ⟨"    --generate-config [<PATH>]",
    "Write a default configuration file and exit (default: XDG config path)"⟩,
  ⟨"-d, --debug", "Enable debug logging"⟩,
  ⟨"-h, --help", "Print help"⟩,
  ⟨"-V, --version", "Print version"⟩]

/-- The lines of entries under a title, in two columns. -/
def helpSection (title : String) (entries : List HelpEntry) : String :=
  let width := (entries.map fun e => e.spelling.length).foldr max 0
  title ++ ":\n" ++ String.join (entries.map fun e =>
    "  " ++ String.ofList (Text.padRight width e.spelling.toList) ++ "  " ++ e.purpose ++ "\n")

def helpText : String :=
  "Prints the current date and time formatted for a locale.\n\n" ++
  "Usage: datestamp [OPTIONS] [LOCALE]\n\n" ++
  helpSection "Arguments" positionalEntries ++ "\n" ++
  helpSection "Options" optionEntries

end LocaleClock.CommandLine
