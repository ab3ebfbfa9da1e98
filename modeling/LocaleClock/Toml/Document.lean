import LocaleClock.Toml.Quoting
import LocaleClock.Toml.Scalar

/-! Documents. A document is a list of statements, each on lines of its own: headers, which say what
table follows, and pairs of a key and a value. Reading gives the statements; building gives the
table that they describe. -/

namespace LocaleClock.Toml

inductive Statement where
  | header (path : KeyPath)
  | element (path : KeyPath)
  | pair (path : KeyPath) (v : Value)

/-! ### Between the statements -/

def isSpace (c : Char) : Bool := c == ' ' || c == '\t'

def skipSpaces (cs : List Char) : List Char := cs.dropWhile isSpace

/-- Skips blanks, line breaks and comments. The flag holds inside a comment. -/
def skipTrivia : Bool → List Char → Option (List Char)
  | _, [] => some []
  | _, '\n' :: rest => skipTrivia false rest
  | _, '\r' :: '\n' :: rest => skipTrivia false rest
  | false, ' ' :: rest => skipTrivia false rest
  | false, '\t' :: rest => skipTrivia false rest
  | false, '#' :: rest => skipTrivia true rest
  | false, cs => some cs
  | true, c :: rest => if isPlainChar c then skipTrivia true rest else none

def skipComment : List Char → Option (List Char)
  | [] => some []
  | '\n' :: rest => some rest
  | '\r' :: '\n' :: rest => some rest
  | c :: rest => if isPlainChar c then skipComment rest else none

/-- Skips what may follow a statement on its line, and the line break. -/
def skipLineEnd (cs : List Char) : Option (List Char) :=
  match skipSpaces cs with
  | [] => some []
  | '\n' :: rest => some rest
  | '\r' :: '\n' :: rest => some rest
  | '#' :: rest => skipComment rest
  | _ => none

/-! ### Keys -/

/-- The characters of a key that is written without quotation marks. -/
def isBareKeyChar (c : Char) : Bool := c.isAlphanum || c == '_' || c == '-'

def key? : List Char → Option (String × List Char)
  | '"' :: rest => (basicText .plain rest).map fun x => (String.ofList x.1, x.2)
  | '\'' :: rest => (literalText rest).map fun x => (String.ofList x.1, x.2)
  | cs =>
    let word := cs.takeWhile isBareKeyChar
    if word.isEmpty then none else some (String.ofList word, cs.dropWhile isBareKeyChar)

/-- Reads keys with dots between them, and the blanks after the last. -/
def dottedKeys? (cs : List Char) : Option (KeyPath × List Char) := do
  let (key, rest) ← key? cs
  match skipSpaces rest with
  | '.' :: rest =>
    let next := skipSpaces rest
    if _h : next.length < cs.length then
      let (path, rest) ← dottedKeys? next
      return (⟨key :: path.parents, path.key⟩, rest)
    else none
  | rest => return (⟨[], key⟩, rest)
termination_by cs.length

/-- How far values may be nested, by brackets or by the keys of one path. -/
def maxDepth : Nat := 80

/-- Reads a key path, and the blanks after it. -/
def keyPath? (cs : List Char) : Option (KeyPath × List Char) := do
  let (path, rest) ← dottedKeys? cs
  if path.parents.length < maxDepth then return (path, rest) else none

/-! ### Values -/

/-- Reads a value that holds no others. -/
def flatValue? (cs : List Char) : Option (Value × List Char) :=
  match cs.head? with
  | some '"' | some '\'' =>
    (quotedText? cs).map fun x => (.text (String.ofList x.1), x.2)
  | _ => scalar? cs

def items? (value? : List Char → Option (Value × List Char)) (cs : List Char) :
    Option (List Value × List Char) := do
  match ← skipTrivia false cs with
  | ']' :: rest => return ([], rest)
  | start =>
    let (v, rest) ← value? start
    match ← skipTrivia false rest with
    | ']' :: rest => return ([v], rest)
    | ',' :: rest =>
      if _h : rest.length < cs.length then
        let (vs, rest) ← items? value? rest
        return (v :: vs, rest)
      else none
    | _ => none
termination_by cs.length

/-- Reads a key path, the equals sign and a value, with gaps around the equals sign. -/
def pair? (skipGap : List Char → Option (List Char))
    (value? : List Char → Option (Value × List Char)) (cs : List Char) :
    Option ((KeyPath × Value) × List Char) := do
  let (path, rest) ← keyPath? cs
  match ← skipGap rest with
  | '=' :: rest =>
    let (v, rest) ← value? (← skipGap rest)
    return ((path, v), rest)
  | _ => none

/-- Reads the pairs of a table after its opening brace. They may go over several lines wherever a
blank may stand, except beside the dots of a key path. -/
def pairs? (value? : List Char → Option (Value × List Char)) (cs : List Char) :
    Option (List (KeyPath × Value) × List Char) := do
  match ← skipTrivia false cs with
  | '\x7d' :: rest => return ([], rest)
  | start =>
    let (pair, rest) ← pair? (skipTrivia false) value? start
    match ← skipTrivia false rest with
    | '\x7d' :: rest => return ([pair], rest)
    | ',' :: rest =>
      if _h : rest.length < cs.length then
        let (more, rest) ← pairs? value? rest
        return (pair :: more, rest)
      else none
    | _ => none
termination_by cs.length

/-- Reads a value in which arrays and tables are nested up to a depth. -/
def valueTo? : Nat → List Char → Option (Value × List Char)
  | depth + 1, '[' :: rest => (items? (valueTo? depth) rest).map fun x => (.array x.1, x.2)
  | depth + 1, '\x7b' :: rest => do
    let (pairs, rest) ← pairs? (valueTo? depth) rest
    return (.table .inline (← Entries.ofPairs pairs), rest)
  | _, cs => flatValue? cs

def value? (cs : List Char) : Option (Value × List Char) := valueTo? maxDepth cs

/-! ### Statements -/

def statement? : List Char → Option (Statement × List Char)
  | '[' :: '[' :: rest => do
    let (path, rest) ← keyPath? (skipSpaces rest)
    match rest with
    | ']' :: ']' :: rest => return (.element path, rest)
    | _ => none
  | '[' :: rest => do
    let (path, rest) ← keyPath? (skipSpaces rest)
    match rest with
    | ']' :: rest => return (.header path, rest)
    | _ => none
  | cs =>
    (pair? (fun rest => some (skipSpaces rest)) value? cs).map fun x => (.pair x.1.1 x.1.2, x.2)

def statements? (cs : List Char) : Option (List Statement) := do
  match ← skipTrivia false cs with
  | [] => return []
  | start =>
    let (s, rest) ← statement? start
    let rest ← skipLineEnd rest
    if _h : rest.length < cs.length then return s :: (← statements? rest) else none
termination_by cs.length

/-- A byte order mark at the start is not part of the text. -/
def skipMark : List Char → List Char
  | '\ufeff' :: rest => rest
  | cs => cs

/-! ### Building -/

/-- The root table and the path of the table that pairs are added to. -/
structure Draft where
  root : Entries
  current : List String

def Draft.add (d : Draft) : Statement → Option Draft
  | .header path => do
    return ⟨← d.root.openTable path, path.parents ++ [path.key]⟩
  | .element path => do
    return ⟨← d.root.openElement path, path.parents ++ [path.key]⟩
  | .pair path v => do
    return ⟨← d.root.addPair d.current path v, d.current⟩

def build? (statements : List Statement) : Option Entries :=
  (statements.foldlM Draft.add ⟨[], []⟩).map Draft.root

/-- The table that a document describes, none when it is not well formed. -/
def parse? (text : String) : Option Entries :=
  (statements? (skipMark text.toList)).bind build?

end LocaleClock.Toml
