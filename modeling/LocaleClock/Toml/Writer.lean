import LocaleClock.Text.Digits

/-! Writing documents: tables of texts and truth values, each under its header, with an empty line
between tables. A text is written in the plainest form that can hold it. -/

namespace LocaleClock.Toml

/-! ### Texts -/

/-- Characters that cannot stand in a text as they are. -/
def isControl (c : Char) : Bool :=
  (c.toNat < 0x20 && c != '\t' && c != '\n') || c.toNat == 0x7F

/-- The escape of a character that cannot stand between double marks as it is. -/
def escapeOf (c : Char) : List Char :=
  match c with
  | '\x08' => ['\\', 'b']
  | '\t' => ['\\', 't']
  | '\n' => ['\\', 'n']
  | '\x0c' => ['\\', 'f']
  | '\r' => ['\\', 'r']
  | '\\' => ['\\', '\\']
  | '"' => ['\\', '"']
  | c => ['\\', 'u'] ++ Text.padLeft 4 '0' ((Nat.toDigits 16 c.toNat).map Char.toUpper)

/-- Holds of the characters that are escaped wherever they stand between double marks. -/
def needsEscape (c : Char) : Bool := isControl c || c == '\t' || c == '\\'

/-- A text between double marks on one line. -/
def basicBody (cs : List Char) : List Char :=
  cs.flatMap fun c => if needsEscape c || c == '\n' || c == '"' then escapeOf c else [c]

/-- A text between three double marks, where `run` marks stand just before it. Of three marks in a
row the third is escaped. -/
def longBasicBody (run : Nat) : List Char → List Char
  | [] => []
  | c :: cs =>
    if c = '"' then
      if run = 2 then escapeOf c ++ longBasicBody 0 cs else c :: longBasicBody (run + 1) cs
    else if needsEscape c then escapeOf c ++ longBasicBody 0 cs
    else c :: longBasicBody 0 cs

/-- Holds when a character occurs three times in a row. -/
def hasTriple (mark : Char) : List Char → Bool
  | c :: d :: e :: cs => (c == mark && d == mark && e == mark) || hasTriple mark (d :: e :: cs)
  | _ => false

inductive TextForm where
  | basic | literal | longBasic | longLiteral
  deriving DecidableEq, Repr

/-- The form of a text: the first that holds it without escapes, except for tabs; otherwise one with
escapes, on several lines if the text is. -/
def TextForm.of (cs : List Char) : TextForm :=
  let plain := !cs.any isControl
  let oneLine := !cs.contains '\n'
  if plain && !cs.contains '\\' && !cs.contains '"' && oneLine then .basic
  else if plain && !cs.contains '\'' && oneLine then .literal
  else if plain && !cs.contains '\\' && !hasTriple '"' cs then .longBasic
  else if plain && !hasTriple '\'' cs then .longLiteral
  else if oneLine then .basic else .longBasic

/-- A line break that three opening marks are followed by when the text has several lines. -/
def openingBreak (cs : List Char) : List Char := if cs.contains '\n' then ['\n'] else []

def TextForm.write (form : TextForm) (cs : List Char) : List Char :=
  match form with
  | .basic => '"' :: basicBody cs ++ ['"']
  | .literal => '\'' :: cs ++ ['\'']
  | .longBasic => ['"', '"', '"'] ++ openingBreak cs ++ longBasicBody 0 cs ++ ['"', '"', '"']
  | .longLiteral => ['\'', '\'', '\''] ++ openingBreak cs ++ cs ++ ['\'', '\'', '\'']

def writeText (text : String) : List Char := (TextForm.of text.toList).write text.toList

/-! ### Keys -/

/-- The characters of a key that needs no marks. -/
def isPlainKeyChar (c : Char) : Bool := c.isAlphanum || c == '_' || c == '-'

def writeKey (key : String) : List Char :=
  let cs := key.toList
  let plain := !cs.any isControl && !cs.contains '\n'
  if !cs.isEmpty && cs.all isPlainKeyChar then cs
  else if plain && !cs.contains '\\' && !cs.contains '"' then TextForm.basic.write cs
  else if plain && !cs.contains '\'' then TextForm.literal.write cs
  else TextForm.basic.write cs

/-! ### Documents -/

inductive Scalar where
  | text (s : String)
  | boolean (b : Bool)
  deriving DecidableEq, Repr

def Scalar.write : Scalar → List Char
  | .text s => writeText s
  | .boolean true => "true".toList
  | .boolean false => "false".toList

structure Block where
  path : List String
  pairs : List (String × Scalar)
  deriving DecidableEq, Repr

def Block.write (b : Block) : List Char :=
  '[' :: ['.'].intercalate (b.path.map writeKey) ++ [']', '\n'] ++
    b.pairs.flatMap fun p => writeKey p.1 ++ " = ".toList ++ p.2.write ++ ['\n']

/-- The lines of tables, with an empty line between two. -/
def writeBlocks (blocks : List Block) : List Char := ['\n'].intercalate (blocks.map Block.write)

end LocaleClock.Toml
