/-! The arguments of the program and how they are read from the words of a command line. One word at
a time is looked at; an option that still waits for its value is kept aside, and is settled when the
next option, a locale or the end of the line shows that nothing more belongs to it. -/

namespace LocaleClock.CommandLine

structure Arguments where
  locale : Option String
  format : Option String
  offset : Option String
  config : Option String
  /-- Where to write a settings file; the empty text stands for the usual place. -/
  generateConfig : Option String
  debug : Bool
  deriving DecidableEq, Repr

def Arguments.none : Arguments := ⟨.none, .none, .none, .none, .none, false⟩

inductive Choice where
  | format | offset | config | generateConfig
  deriving DecidableEq, Repr

inductive Flag where
  | debug | help | version
  deriving DecidableEq, Repr

inductive Switch where
  | choice (c : Choice)
  | flag (f : Flag)
  deriving DecidableEq, Repr

inductive UsageError where
  | invalidValue | unknownArgument | tooManyValues | argumentConflict
  deriving DecidableEq, Repr

inductive Stop where
  | help
  | version
  | usage (e : UsageError)
  deriving DecidableEq, Repr

def long? (name : List Char) : Option Switch :=
  [("format".toList, Switch.choice .format), ("offset".toList, .choice .offset),
   ("config".toList, .choice .config), ("generate-config".toList, .choice .generateConfig),
   ("debug".toList, .flag .debug), ("help".toList, .flag .help),
   ("version".toList, .flag .version)].lookup name

def short? : Char → Option Switch
  | 'f' => some (.choice .format)
  | 'c' => some (.choice .config)
  | 'd' => some (.flag .debug)
  | 'h' => some (.flag .help)
  | 'V' => some (.flag .version)
  | _ => .none

namespace Arguments

def get (a : Arguments) : Choice → Option String
  | .format => a.format
  | .offset => a.offset
  | .config => a.config
  | .generateConfig => a.generateConfig

def set (a : Arguments) (c : Choice) (value : String) : Arguments :=
  match c with
  | .format => { a with format := some value }
  | .offset => { a with offset := some value }
  | .config => { a with config := some value }
  | .generateConfig => { a with generateConfig := some value }

/-- Sets the value of an option that has none yet. -/
def setNew (a : Arguments) (c : Choice) (value : String) : Except Stop Arguments :=
  if (a.get c).isSome then .error (.usage .argumentConflict) else .ok (a.set c value)

/-- Does what a flag asks for. -/
def raise (a : Arguments) : Flag → Except Stop Arguments
  | .help => .error .help
  | .version => .error .version
  | .debug =>
    if a.debug then .error (.usage .argumentConflict) else .ok { a with debug := true }

end Arguments

/-- The value an option has when none follows it, if it may stand alone. -/
def Choice.alone? : Choice → Option String
  | .generateConfig => some ""
  | _ => .none

/-- How far a command line has been read. -/
structure Reading where
  /-- What is settled. -/
  arguments : Arguments
  /-- An option that is not settled, with the value that has followed it. -/
  pending : Option (Choice × Option String)
  /-- Holds after two hyphens: no option can follow. -/
  onlyValues : Bool
  deriving DecidableEq, Repr

namespace Reading

def start : Reading := ⟨.none, .none, false⟩

/-- Settles the option that is kept aside. -/
def settle (r : Reading) : Except Stop Reading :=
  match r.pending with
  | .none => .ok r
  | some (c, value) =>
    match value.or c.alone? with
    | .none => .error (.usage .invalidValue)
    | some v => do return { r with arguments := ← r.arguments.setNew c v, pending := .none }

/-- Keeps an option aside. -/
def await (r : Reading) (c : Choice) : Except Stop Reading := do
  return { ← r.settle with pending := some (c, .none) }

def attach (r : Reading) (c : Choice) (value : List Char) : Except Stop Reading := do
  let r ← r.settle
  return { r with arguments := ← r.arguments.setNew c (String.ofList value) }

def raise (r : Reading) (f : Flag) : Except Stop Reading := do
  let r ← r.settle
  return { r with arguments := ← r.arguments.raise f }

def takeLocale (r : Reading) (word : String) : Except Stop Reading := do
  if r.arguments.locale.isSome then throw (.usage .unknownArgument)
  let r ← r.settle
  return { r with arguments := { r.arguments with locale := some word } }

/-- Reads a long option, which may have its value after an equals sign. -/
def takeLong (r : Reading) (word : List Char) : Except Stop Reading :=
  let name := word.takeWhile (· ≠ '=')
  match long? name, word.dropWhile (· ≠ '=') with
  | some (.choice c), _ :: value => r.attach c value
  | some (.choice c), [] => r.await c
  | some (.flag _), _ :: _ => .error (.usage .tooManyValues)
  | some (.flag f), [] => r.raise f
  | .none, _ => .error (.usage .unknownArgument)

/-- Reads short options. Flags may be followed by others; what follows an option with a value is its
value, with or without an equals sign before it. -/
def takeShort (r : Reading) : List Char → Except Stop Reading
  | [] => .ok r
  | c :: rest =>
    match short? c with
    | .none => .error (.usage .unknownArgument)
    | some (.flag f) => do (← r.raise f).takeShort rest
    | some (.choice choice) =>
      match rest with
      | [] => r.await choice
      | '=' :: value => r.attach choice value
      | value => r.attach choice value

/-- Reads a word that is no option: the value of the option that waits for one, or the locale. -/
def takeValue (r : Reading) (word : String) : Except Stop Reading :=
  match r.pending with
  | some (c, .none) => .ok { r with pending := some (c, some word) }
  | _ => r.takeLocale word

/-- Reads a word. An offset may start with a hyphen, so whatever follows that option is its
value. -/
def take (r : Reading) (word : String) : Except Stop Reading :=
  if r.onlyValues then r.takeLocale word
  else if r.pending = some (.offset, .none) then r.takeValue word
  else
    match word.toList with
    | ['-', '-'] => .ok { r with onlyValues := true }
    | '-' :: '-' :: long => r.takeLong long
    | '-' :: c :: short => r.takeShort (c :: short)
    | _ => r.takeValue word

end Reading

def parse (words : List String) : Except Stop Arguments := do
  return (← (← words.foldlM Reading.take Reading.start).settle).arguments

end LocaleClock.CommandLine
