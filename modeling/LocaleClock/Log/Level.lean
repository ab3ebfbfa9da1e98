import LocaleClock.Text.Ascii
import LocaleClock.Text.Blank

/-! How severe a record is, and how severe it has to be to be kept. A threshold is named by the
least severe level that it keeps, or `off`. -/

namespace LocaleClock.Log

inductive Severity where
  | error | warn | info | debug | trace
  deriving DecidableEq, Repr

namespace Severity

def all : List Severity := [.error, .warn, .info, .debug, .trace]

def name : Severity → String
  | .error => "ERROR"
  | .warn => "WARN"
  | .info => "INFO"
  | .debug => "DEBUG"
  | .trace => "TRACE"

/-- The place among the levels, zero for the most severe. -/
def rank : Severity → Nat
  | .error => 0
  | .warn => 1
  | .info => 2
  | .debug => 3
  | .trace => 4

def ofName? (name : String) : Option Severity :=
  all.find? fun s => Text.sameLetters s.name.toList name.toList

end Severity

inductive Threshold where
  | off
  | upTo (least : Severity)
  deriving DecidableEq, Repr

namespace Threshold

/-- All thresholds, the strictest first. -/
def all : List Threshold := .off :: Severity.all.map .upTo

def name : Threshold → String
  | .off => "OFF"
  | .upTo s => s.name

def admits : Threshold → Severity → Bool
  | .off, _ => false
  | .upTo least, s => s.rank ≤ least.rank

def ofName? (name : String) : Option Threshold :=
  all.find? fun t => Text.sameLetters t.name.toList name.toList

/-- The threshold with a name in any case and with white space around it. -/
def parse? (text : String) : Option Threshold :=
  ofName? (String.ofList (Text.trim text.toList))

end Threshold

end LocaleClock.Log
