import LocaleClock.Text.Hidden

/-! Quoted texts for diagnostic output. Quotes, backslashes and hidden characters are escaped, so
a quoted text stays on one line and shows every character it holds. -/

namespace LocaleClock.Text

/-- The lower-case hexadecimal number of a character between braces. -/
def numberEscape (c : Char) : List Char :=
  ['\\', 'u', '\x7b'] ++ Nat.toDigits 16 c.toNat ++ ['\x7d']

/-- How a character is written between double quotes. -/
def escapeQuoted (c : Char) : List Char :=
  match c with
  | '"' => ['\\', '"']
  | '\\' => ['\\', '\\']
  | '\n' => ['\\', 'n']
  | '\r' => ['\\', 'r']
  | '\t' => ['\\', 't']
  | '\x00' => ['\\', '0']
  | c => if isHidden c then numberEscape c else [c]

def quoted (text : String) : String :=
  String.ofList (['"'] ++ text.toList.flatMap escapeQuoted ++ ['"'])

end LocaleClock.Text
