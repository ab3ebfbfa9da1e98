import LocaleClock.Locale.Names

/-! Known locales. A locale is one of the known names. What locales say about dates is in a table,
which gives each its conventions. -/

namespace LocaleClock

/-- A locale, given by its name. -/
structure Locale where
  name : String
  known : name ∈ Locale.names
  deriving DecidableEq

namespace Locale

def ofName? (name : String) : Option Locale :=
  if h : name ∈ names then some ⟨name, h⟩ else none

def americanEnglish : Locale := ⟨"en_US", by decide⟩

theorem ofName?_name (l : Locale) : ofName? l.name = some l := by
  simp [ofName?, l.known]

theorem name_of_ofName? {name : String} {l : Locale} (h : ofName? name = some l) :
    l.name = name := by
  unfold ofName? at h
  split at h
  · cases h; rfl
  · cases h

end Locale

end LocaleClock
