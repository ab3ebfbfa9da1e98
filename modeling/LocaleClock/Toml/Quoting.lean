import LocaleClock.Text.Digits

/-! Reading texts of a document. A text stands between quotation marks, single or three in a row.
Between double ones a backslash starts an escape; between single ones every character is itself.
Each reader takes the text after the opening marks and gives what is quoted and what follows the
closing marks. -/

namespace LocaleClock.Toml

open Text

/-- The characters that may stand in a text or a comment as they are. -/
def isPlainChar (c : Char) : Bool := c == '\t' || (0x20 ≤ c.toNat && c.toNat != 0x7F)

/-- Puts a character before what a reader quotes. -/
def quoting (c : Char) : Option (List Char × List Char) → Option (List Char × List Char) :=
  Option.map fun x => (c :: x.1, x.2)

/-- The escapes of one letter. -/
def simpleEscape? : Char → Option Char
  | 'b' => some '\x08'
  | 't' => some '\t'
  | 'n' => some '\n'
  | 'f' => some '\x0c'
  | 'r' => some '\r'
  | 'e' => some '\x1b'
  | '"' => some '"'
  | '\\' => some '\\'
  | _ => none

/-- How many hexadecimal digits follow the letter of a numeric escape. -/
def escapeDigits? : Char → Option Nat
  | 'x' => some 2
  | 'u' => some 4
  | 'U' => some 8
  | _ => none

/-- The character with a number; surrogates and numbers that are too large have none. -/
def charOfNumber? (n : Nat) : Option Char :=
  if n.isValidChar then some (Char.ofNat n) else none

inductive EscapeState where
  | plain
  /-- After a backslash. -/
  | escape
  /-- After a backslash and blanks, before the end of the line. -/
  | continuation
  /-- In the white space that a backslash at the end of a line takes away. -/
  | swallow
  /-- Before the last digits of a numeric escape. -/
  | number (digits value : Nat)
  deriving DecidableEq, Repr

/-- Goes on after a character in the middle of a numeric escape. -/
def numberStep (c : Char) (digits value : Nat)
    (next : EscapeState → Option (List Char × List Char)) : Option (List Char × List Char) := do
  let value := value * 16 + (← hexValue? c)
  match digits with
  | 0 => quoting (← charOfNumber? value) (next .plain)
  | digits + 1 => next (.number digits value)

/-- Goes on after the character that follows a backslash. -/
def escapeStep (c : Char) (next : EscapeState → Option (List Char × List Char)) :
    Option (List Char × List Char) :=
  match simpleEscape? c, escapeDigits? c with
  | some d, _ => quoting d (next .plain)
  | none, some digits => next (.number (digits - 1) 0)
  | none, none => none

/-- Reads on to a double quotation mark on the same line. -/
def basicText : EscapeState → List Char → Option (List Char × List Char)
  | .plain, '"' :: rest => some ([], rest)
  | .plain, '\\' :: rest => basicText .escape rest
  | .plain, c :: rest => if isPlainChar c then quoting c (basicText .plain rest) else none
  | .escape, c :: rest => escapeStep c fun state => basicText state rest
  | .number digits value, c :: rest =>
    numberStep c digits value fun state => basicText state rest
  | _, _ => none

/-- Quotation marks just before the closing ones belong to the text. -/
def closing (mark : Char) (rest : List Char) : List Char × List Char :=
  match rest with
  | c :: d :: more =>
    if c = mark then if d = mark then ([c, d], more) else ([c], d :: more) else ([], rest)
  | [c] => if c = mark then ([c], []) else ([], rest)
  | [] => ([], [])

/-- Reads on to three double quotation marks in a row. -/
def longBasicText : EscapeState → List Char → Option (List Char × List Char)
  | .plain, '"' :: '"' :: '"' :: rest => some (closing '"' rest)
  | .plain, '\\' :: rest => longBasicText .escape rest
  | .plain, '\n' :: rest => quoting '\n' (longBasicText .plain rest)
  | .plain, '\r' :: '\n' :: rest => quoting '\r' (quoting '\n' (longBasicText .plain rest))
  | .plain, c :: rest => if isPlainChar c then quoting c (longBasicText .plain rest) else none
  | .escape, '\n' :: rest => longBasicText .swallow rest
  | .escape, '\r' :: '\n' :: rest => longBasicText .swallow rest
  | .escape, c :: rest =>
    if c = ' ' ∨ c = '\t' then longBasicText .continuation rest
    else escapeStep c fun state => longBasicText state rest
  | .continuation, '\n' :: rest => longBasicText .swallow rest
  | .continuation, '\r' :: '\n' :: rest => longBasicText .swallow rest
  | .continuation, c :: rest =>
    if c = ' ' ∨ c = '\t' then longBasicText .continuation rest else none
  | .swallow, '"' :: '"' :: '"' :: rest => some (closing '"' rest)
  | .swallow, '\\' :: rest => longBasicText .escape rest
  | .swallow, '\r' :: '\n' :: rest => longBasicText .swallow rest
  | .swallow, c :: rest =>
    if c = ' ' ∨ c = '\t' ∨ c = '\n' then longBasicText .swallow rest
    else if isPlainChar c then quoting c (longBasicText .plain rest)
    else none
  | .number digits value, c :: rest =>
    numberStep c digits value fun state => longBasicText state rest
  | _, [] => none

/-- Reads on to a single quotation mark on the same line. -/
def literalText : List Char → Option (List Char × List Char)
  | '\'' :: rest => some ([], rest)
  | c :: rest => if isPlainChar c then quoting c (literalText rest) else none
  | [] => none

/-- Reads on to three single quotation marks in a row. -/
def longLiteralText : List Char → Option (List Char × List Char)
  | '\'' :: '\'' :: '\'' :: rest => some (closing '\'' rest)
  | '\n' :: rest => quoting '\n' (longLiteralText rest)
  | '\r' :: '\n' :: rest => quoting '\r' (quoting '\n' (longLiteralText rest))
  | c :: rest => if isPlainChar c then quoting c (longLiteralText rest) else none
  | [] => none

/-- A line break right after three opening marks is not part of the text. -/
def skipLineBreak : List Char → List Char
  | '\n' :: rest => rest
  | '\r' :: '\n' :: rest => rest
  | cs => cs

def quotedText? : List Char → Option (List Char × List Char)
  | '"' :: '"' :: '"' :: rest => longBasicText .plain (skipLineBreak rest)
  | '"' :: rest => basicText .plain rest
  | '\'' :: '\'' :: '\'' :: rest => longLiteralText (skipLineBreak rest)
  | '\'' :: rest => literalText rest
  | _ => none

end LocaleClock.Toml
