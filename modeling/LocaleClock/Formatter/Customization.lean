import LocaleClock.Text.Ascii
import LocaleClock.Text.Blank
import LocaleClock.Text.Fields

/-! Customizations of single locales, kept under lookup keys. Identifiers that differ in white space
around them, in the case of ASCII letters or in hyphens against underscores have one key, and a key
has at most one customization: the last one that was registered. -/

namespace LocaleClock

/-- What a formatter does differently for an identifier. An empty customization only makes the
identifier known. -/
structure Customization where
  /-- The pattern to use instead of the formatter's. -/
  format : Option String
  /-- The identifier whose locale is used instead. -/
  base : Option String
  deriving DecidableEq, Repr

namespace Customization

/-- The customization that changes nothing. -/
def empty : Customization := ⟨none, none⟩

def lookupKey (identifier : String) : String :=
  String.ofList ((Text.asciiLower (Text.trim identifier.toList)).map fun c =>
    if c = '-' then '_' else c)

/-- The key of the language that a key belongs to: what stands before its first underscore. -/
def languageKey (key : String) : String :=
  String.ofList (Text.firstField (· == '_') key.toList)

end Customization

/-- Customizations by lookup key, in the order in which they were registered. -/
structure Registry where
  entries : List (String × Customization)
  deriving DecidableEq, Repr

namespace Registry

def empty : Registry := ⟨[]⟩

def find? (r : Registry) (key : String) : Option Customization := r.entries.lookup key

/-- Puts a customization under a key, in place of the one that was there. -/
def insert (r : Registry) (key : String) (c : Customization) : Registry :=
  ⟨r.entries.filter (fun e => e.1 != key) ++ [(key, c)]⟩

@[simp] theorem find?_empty (key : String) : empty.find? key = none := rfl

theorem lookup_filter_ne (es : List (String × Customization)) (key key' : String) :
    (es.filter fun e => e.1 != key).lookup key' = if key' = key then none else es.lookup key' := by
  induction es with
  | nil => simp
  | cons e es ih =>
    obtain ⟨k, c⟩ := e
    by_cases hk : k = key
    · rw [List.filter_cons_of_neg (by simp [hk]), ih, List.lookup_cons]
      split
      · rfl
      · rename_i h
        rw [beq_false_of_ne (fun hk' => h (hk'.trans hk))]
    · rw [List.filter_cons_of_pos (by simp [hk]), List.lookup_cons, List.lookup_cons, ih]
      split
      · rename_i h
        rw [if_neg (fun hk' => hk ((beq_iff_eq.1 h).symm.trans hk'))]
      · rfl

theorem find?_insert (r : Registry) (key key' : String) (c : Customization) :
    (r.insert key c).find? key' = if key' = key then some c else r.find? key' := by
  rw [find?, insert, List.lookup_append, lookup_filter_ne, find?]
  by_cases h : key' = key
  · simp [h]
  · simp [h, List.lookup_cons, beq_false_of_ne h]

end Registry

end LocaleClock
