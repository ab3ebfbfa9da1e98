import LocaleClock.Formatter.Basic
import LocaleClock.Locale.Table
import LocaleClock.Pattern.Rendering

/-! Showing instants with a formatter. Formatting never fails from the caller's side: an identifier
that means no locale is shown in the default locale, and an instant that cannot be shown with the
pattern is shown in a fixed form. Both are recorded. What a locale says about dates is looked up in
a table and the host has a time zone; both are arbitrary here, and at the end there is each way of
showing for the sample table at Coordinated Universal Time. -/

namespace LocaleClock

open Log

namespace Formatter

/-- An instant on the clock at the display offset. -/
def moment (zone : TimeZone) (f : Formatter) (t : Instant) : Moment :=
  .of t (f.displayOffset zone t)

/-- The fixed form: date, time and offset. -/
def unformattedIn (zone : TimeZone) (f : Formatter) (t : Instant) : String :=
  let m := f.moment zone t
  String.ofList (m.dateText ++ ' ' :: m.timeText ++ ' ' :: m.offset.colonText)

/-- The locale that an identifier is shown in: the one that its base means, or the default one. -/
def localeFor (f : Formatter) (identifier : String) : Logged Locale :=
  Locale.resolveOr (f.baseOf identifier) f.defaultLocale

def render (zone : TimeZone) (f : Formatter) (c : Locale.Conventions) (t : Instant)
    (pattern : String) : Except FormatError String :=
  match Pattern.render? c (f.moment zone t) pattern.toList with
  | some text => .ok (String.ofList text)
  | none => .error (.unrenderable pattern)

/-- Shows an instant with the pattern for an identifier, in the locale of its base, whose
conventions a table gives. The pattern is looked at first, so an unusable one records nothing about
locales. -/
def tryFormatBy (table : Locale → Locale.Conventions) (zone : TimeZone) (f : Formatter)
    (t : Instant) (identifier : String) : Logged (Except FormatError String) :=
  let pattern := f.patternFor identifier
  match Pattern.validate pattern with
  | .error e => .quiet (.error e)
  | .ok () => (f.localeFor identifier).andThen fun l => .quiet (f.render zone (table l) t pattern)

/-- What is recorded when an instant is shown in the fixed form. -/
def fallbackRecord (e : FormatError) : Record where
  severity := .warn
  target := "datestamp::formatter"
  message := "⚠️ Could not format date, using unformatted value: " ++ e.message

/-- Shows an instant with the pattern for an identifier, and in the fixed form when that fails. -/
def formatBy (table : Locale → Locale.Conventions) (zone : TimeZone) (f : Formatter) (t : Instant)
    (identifier : String) : Logged String :=
  (f.tryFormatBy table zone t identifier).andThen fun result =>
    match result with
    | .ok text => .quiet text
    | .error e => (Logged.quiet (f.unformattedIn zone t)).note (fallbackRecord e)

/-- Shows the current time when it is `t` on the system's clock. -/
def currentBy (table : Locale → Locale.Conventions) (zone : TimeZone) (f : Formatter) (t : Instant)
    (identifier : String) : Logged String :=
  f.formatBy table zone (f.clock.read t) identifier

/-! ### With the sample table -/

def unformatted (f : Formatter) (t : Instant) : String := f.unformattedIn .utc t

def tryFormat (f : Formatter) (t : Instant) (identifier : String) :
    Logged (Except FormatError String) :=
  f.tryFormatBy Locale.sample .utc t identifier

def format (f : Formatter) (t : Instant) (identifier : String) : Logged String :=
  f.formatBy Locale.sample .utc t identifier

def current (f : Formatter) (t : Instant) (identifier : String) : Logged String :=
  f.currentBy Locale.sample .utc t identifier

end Formatter

/-- Shows the current time with the formatter that everything starts from. -/
def currentDateTime (t : Instant) (identifier : String) : Logged String :=
  Formatter.initial.current t identifier

end LocaleClock
