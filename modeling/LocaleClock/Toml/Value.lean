/-! Values of a settings document and how its tables grow. Every table remembers how it came to be,
because that decides which statements may still add to it. -/

namespace LocaleClock.Toml

/-- How a table came to be: by a header of its own, as a parent in a longer header, as a parent in a
dotted key, or between braces. -/
inductive Origin where
  | header | implied | dotted | inline
  deriving DecidableEq, Repr

inductive Value where
  | text (s : String)
  | boolean (b : Bool)
  | integer (n : Int)
  /-- The number `mantissa * 10 ^ exponent`. -/
  | decimal (mantissa : Nat) (exponent : Int)
  /-- An infinity, or no number at all. -/
  | notFinite
  /-- What starts like a whole number and is none. It may stand where nothing uses it. -/
  | malformed
  /-- A date, a time or both. -/
  | dateTime
  | array (items : List Value)
  | table (origin : Origin) (entries : List (String × Value))
  /-- An array of tables, each made by a header. -/
  | tables (elements : List (List (String × Value)))

/-- The keys of a table with their values. A key occurs at most once. -/
abbrev Entries := List (String × Value)

/-- The place of a value: its key and the keys of the tables around it. -/
structure KeyPath where
  parents : List String
  key : String
  deriving DecidableEq, Repr

namespace Entries

/-- Changes the value under a key that is there. -/
def put (key : String) (v : Value) (es : Entries) : Entries :=
  es.map fun e => if e.1 = key then (key, v) else e

/-- Changes the table at the end of a path; tables that are missing on the way are made. An array of
tables stands for its last element. A table between braces is complete, and one with a header of its
own cannot be reached by a dotted key. -/
def alter (dotted : Bool) (f : Origin → Entries → Option Entries) :
    List String → Origin → Entries → Option Entries
  | [], origin, es => f origin es
  | k :: ks, _, es =>
    match es.lookup k with
    | none => do
      let origin := if dotted then Origin.dotted else .implied
      return es ++ [(k, .table origin (← alter dotted f ks origin []))]
    | some (.table origin inner) =>
      if origin = .inline ∨ (dotted ∧ origin = .header) then none
      else return es.put k (.table origin (← alter dotted f ks origin inner))
    | some (.tables elements) => do
      let last ← elements.getLast?
      return es.put k (.tables (elements.dropLast ++ [← alter dotted f ks .header last]))
    | some _ => none

/-- Starts the table of a header. It must be new, or known only as a parent. -/
def openTable (path : KeyPath) (root : Entries) : Option Entries :=
  alter false (fun _ es =>
    match es.lookup path.key with
    | none => some (es ++ [(path.key, .table .header [])])
    | some (.table .implied inner) => some (es.put path.key (.table .header inner))
    | some _ => none) path.parents .header root

/-- Starts a further element of an array of tables. -/
def openElement (path : KeyPath) (root : Entries) : Option Entries :=
  alter false (fun _ es =>
    match es.lookup path.key with
    | none => some (es ++ [(path.key, .tables [[]])])
    | some (.tables elements) => some (es.put path.key (.tables (elements ++ [[]])))
    | some _ => none) path.parents .header root

/-- Adds a value under a key path, seen from the table at the end of `current`. The key must be new,
and a dotted key adds only to tables that dotted keys made. -/
def addPair (current : List String) (path : KeyPath) (v : Value) (root : Entries) :
    Option Entries :=
  alter false (alter true (fun origin es =>
    if (origin = .dotted) = (path.parents = []) then none
    else if (es.lookup path.key).isSome then none
    else some (es ++ [(path.key, v)])) path.parents) current .header root

def ofPairs (pairs : List (KeyPath × Value)) : Option Entries :=
  pairs.foldlM (fun es pair => addPair [] pair.1 pair.2 es) []

end Entries

/-- Bounds of a decimal number: it has to be less than halfway from the largest binary64 number to
the power of two that follows it. -/
def decimalFits (mantissa : Nat) (exponent : Int) : Bool :=
  let places : Int := (Nat.toDigits 10 mantissa).length + exponent
  mantissa = 0 || places < 300 ||
    (places < 320 &&
      mantissa * Nat.pow 10 exponent.toNat <
        (Nat.pow 2 1024 - Nat.pow 2 970) * Nat.pow 10 (-exponent).toNat)

mutual

/-- Holds of the values whose numbers can be used: integers of at most 128 bits and decimals that
binary64 can hold. -/
def Value.isUsable : Value → Bool
  | .integer n => -2 ^ 127 ≤ n && n < 2 ^ 128
  | .decimal mantissa exponent => decimalFits mantissa exponent
  | .malformed => false
  | .array items => allUsable items
  | .table _ entries => entriesUsable entries
  | .tables elements => elementsUsable elements
  | _ => true

def allUsable : List Value → Bool
  | [] => true
  | v :: vs => v.isUsable && allUsable vs

def entriesUsable : List (String × Value) → Bool
  | [] => true
  | (_, v) :: es => v.isUsable && entriesUsable es

def elementsUsable : List (List (String × Value)) → Bool
  | [] => true
  | es :: rest => entriesUsable es && elementsUsable rest

end

end LocaleClock.Toml
