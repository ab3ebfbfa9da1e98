import LocaleClock.Calendar.Moment
import LocaleClock.Formatter.Customization
import LocaleClock.Locale.Resolve

/-! Formatters: the pattern, the locale for identifiers that mean none, the display offset, the
customizations and the clock that "now" is read from, with the steps that change one of them. -/

namespace LocaleClock

inductive Clock where
  | system
  | fixed (t : Instant)
  deriving DecidableEq

/-- The time a clock shows when it is `t` on the system's clock. -/
def Clock.read (c : Clock) (t : Instant) : Instant :=
  match c with
  | .system => t
  | .fixed u => u

structure Formatter where
  pattern : String
  /-- The locale for identifiers that mean none. -/
  defaultLocale : Locale
  /-- The offset to show dates at; that of the host's time zone when none is set. -/
  offset : Option Offset
  customizations : Registry
  clock : Clock
  deriving DecidableEq

namespace Formatter

def defaultPattern : String := "%A, %B %-d, %Y %-I:%M %p"

/-- The formatter that everything starts from. -/
def initial : Formatter where
  pattern := defaultPattern
  defaultLocale := .americanEnglish
  offset := none
  customizations := .empty
  clock := .system

/-! ### Steps -/

/-- Sets the pattern. Any text is taken. -/
def withPattern (f : Formatter) (pattern : String) : Formatter := { f with pattern }

def withDefaultLocale (f : Formatter) (identifier : String) : Except FormatError Formatter := do
  return { f with defaultLocale := ← Locale.resolve identifier }

def withOffset (f : Formatter) (o : Offset) : Formatter := { f with offset := some o }

def withClock (f : Formatter) (clock : Clock) : Formatter := { f with clock }

def register (f : Formatter) (identifier : String) (c : Customization) : Formatter :=
  { f with customizations := f.customizations.insert (Customization.lookupKey identifier) c }

inductive Step where
  | pattern (pattern : String)
  | defaultLocale (identifier : String)
  | offset (o : Offset)
  | clock (clock : Clock)
  | register (identifier : String) (c : Customization)

def apply (f : Formatter) : Step → Except FormatError Formatter
  | .pattern pattern => .ok (f.withPattern pattern)
  | .defaultLocale identifier => f.withDefaultLocale identifier
  | .offset o => .ok (f.withOffset o)
  | .clock clock => .ok (f.withClock clock)
  | .register identifier c => .ok (f.register identifier c)

/-- The formatter after a change; one that fails leaves it as it was. -/
def applyOrKeep (f : Formatter) (s : Step) : Formatter :=
  match f.apply s with
  | .ok g => g
  | .error _ => f

/-- The formatter after a sequence of changes. -/
def applyAll (f : Formatter) (steps : List Step) : Formatter := steps.foldl applyOrKeep f

/-! ### Questions -/

def customization? (f : Formatter) (identifier : String) : Option Customization :=
  f.customizations.find? (Customization.lookupKey identifier)

/-- The pattern for an identifier: the one registered for it, else the one registered for its
language, else the formatter's. -/
def patternFor (f : Formatter) (identifier : String) : String :=
  let key := Customization.lookupKey identifier
  let own? := fun key => (f.customizations.find? key).bind Customization.format
  ([key, Customization.languageKey key].findSome? own?).getD f.pattern

/-- The identifier whose locale is used for an identifier: the base registered for it, else
itself. -/
def baseOf (f : Formatter) (identifier : String) : String :=
  ((f.customization? identifier).bind Customization.base).getD identifier

/-- The offset that an instant is shown at on a host in a time zone. -/
def displayOffset (zone : TimeZone) (f : Formatter) (t : Instant) : Offset :=
  f.offset.getD (zone t)

end Formatter

end LocaleClock
