import LocaleClock.Settings.Document

/-! The settings file for a start: the standard settings with comments that hint at what else can be
set. -/

namespace LocaleClock.Settings

/-- The lines of a text that ends with a line break. -/
def linesOf (cs : List Char) : List (List Char) := (cs.splitOnP (· == '\n')).dropLast

/-- The hint that follows a line: the settings that are not set under that header. -/
def hintAfter (line : List Char) : List Char :=
  if line = "[formatter]".toList then "# utc_offset = \"+01:00\"\n".toList
  else if line = "[logging]".toList then "# file = \"/tmp/datestamp.log\"\n".toList
  else []

def templateHead (date : List Char) : List Char :=
  "# datestamp Configuration File\n# Generated on ".toList ++ date ++ ['\n', '\n']

/-- The comment at the end, on customizations. -/
def templateTail : List Char :=
  ("\n# Per-locale customizations\n# [locales.de]\n# format = \"%A, %-d. %B %Y %H:%M\"\n" ++
    "#\n# [locales.x-pirate]\n# base = \"en_GB\"\n").toList

/-- The text of the file when it is made on a date. -/
def template (date : List Char) : String :=
  String.ofList (templateHead date ++
    ((linesOf standard.document.toList).flatMap fun line => line ++ '\n' :: hintAfter line) ++
    templateTail)

end LocaleClock.Settings
