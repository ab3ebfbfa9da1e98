import LocaleClock.Settings.Basic
import LocaleClock.Toml.Document
import LocaleClock.Toml.Writer

/-! Settings as documents: the table `formatter`, the table `locales` with one table for each
identifier, and the table `logging`. What a document does not set keeps its standard value. -/

namespace LocaleClock.Settings

open Toml

/-! ### Reading -/

/-- The values of the named fields of a section. A section is a table, or an array with the fields
in order. What else a table holds is passed over but must be usable; further items of an array are
not looked at. A date or time holds no field. -/
def sectionFields? (names : List String) : Value → Option (List (Option Value))
  | .table _ entries =>
    if entriesUsable (entries.filter fun e => !names.contains e.1) then
      some (names.map fun name => entries.lookup name)
    else none
  | .array items => some ((List.range names.length).map fun i => items[i]?)
  | .dateTime => some (names.map fun _ => none)
  | _ => none

def textOf? : Value → Option String
  | .text s => some s
  | _ => none

def booleanOf? : Value → Option Bool
  | .boolean b => some b
  | _ => none

/-- The value of a field, or its standard value when it is not set. -/
def fieldOr {α : Type} (read? : Value → Option α) (standard : α) : Option Value → Option α
  | none => some standard
  | some v => read? v

def optionalField {α : Type} (read? : Value → Option α) : Option Value → Option (Option α)
  | none => some none
  | some v => (read? v).map some

def Formatting.fieldNames : List String := ["format", "default_locale", "utc_offset"]

def Formatting.ofValue? (v : Value) : Option Formatting := do
  match ← sectionFields? fieldNames v with
  | [format, defaultLocale, utcOffset] =>
    return { format := ← fieldOr textOf? standard.format format
             defaultLocale := ← fieldOr textOf? standard.defaultLocale defaultLocale
             utcOffset := ← optionalField textOf? utcOffset }
  | _ => none

def customizationFieldNames : List String := ["format", "base"]

def customizationOfValue? (v : Value) : Option Customization := do
  match ← sectionFields? customizationFieldNames v with
  | [format, base] =>
    return { format := ← optionalField textOf? format, base := ← optionalField textOf? base }
  | _ => none

def Sections.ofValue? : Value → Option Sections
  | .table _ entries => do
    let read ← entries.mapM fun e => do return (e.1, ← customizationOfValue? e.2)
    return .ofList read
  | _ => none

def Logging.fieldNames : List String := ["enabled", "level", "file"]

def Logging.ofValue? (v : Value) : Option Logging := do
  match ← sectionFields? fieldNames v with
  | [enabled, level, file] =>
    return { enabled := ← fieldOr booleanOf? standard.enabled enabled
             level := ← fieldOr textOf? standard.level level
             file := ← optionalField textOf? file }
  | _ => none

def sectionNames : List String := ["formatter", "locales", "logging"]

def ofEntries? (entries : Entries) : Option Settings := do
  match ← sectionFields? sectionNames (.table .header entries) with
  | [formatting, locales, logging] =>
    return { formatting := ← fieldOr Formatting.ofValue? .standard formatting
             locales := ← fieldOr Sections.ofValue? .empty locales
             logging := ← fieldOr Logging.ofValue? .standard logging }
  | _ => none

def parse? (text : String) : Option Settings := (Toml.parse? text).bind ofEntries?

/-! ### Writing -/

/-- A field that is written only when it is set. -/
def optionalPair (key : String) (value : Option String) : List (String × Scalar) :=
  value.toList.map fun s => (key, .text s)

def Formatting.block (s : Formatting) : Block where
  path := ["formatter"]
  pairs := [("format", .text s.format), ("default_locale", .text s.defaultLocale)] ++
    optionalPair "utc_offset" s.utcOffset

def customizationBlock (identifier : String) (c : Customization) : Block where
  path := ["locales", identifier]
  pairs := optionalPair "format" c.format ++ optionalPair "base" c.base

/-- The tables of the customizations; an empty table stands for none. -/
def Sections.blocks (s : Sections) : List Block :=
  if s.entries.isEmpty then [⟨["locales"], []⟩]
  else s.entries.map fun e => customizationBlock e.1 e.2

def Logging.block (s : Logging) : Block where
  path := ["logging"]
  pairs := [("enabled", .boolean s.enabled), ("level", .text s.level)] ++
    optionalPair "file" s.file

/-- The text of a document that sets everything as the settings say. -/
def document (s : Settings) : String :=
  String.ofList (writeBlocks ([s.formatting.block] ++ s.locales.blocks ++ [s.logging.block]))

end LocaleClock.Settings
