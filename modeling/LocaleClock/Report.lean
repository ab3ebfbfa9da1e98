/-! Reports of failures. A report says what could not be done, and then why, each cause explaining
the one before it. -/

namespace LocaleClock

/-- What failed and the causes, the outermost first. -/
structure Report where
  message : String
  causes : List String
  deriving DecidableEq, Repr

namespace Report

def plain (message : String) : Report := ⟨message, []⟩

def because (message cause : String) : Report := ⟨message, [cause]⟩

/-- A report as the cause of a wider failure. -/
def within (r : Report) (message : String) : Report := ⟨message, r.message :: r.causes⟩

/-- A cause after a label as wide as `margin`; its further lines are set in by the margin. -/
def causeText (label margin cause : String) : String :=
  label ++ String.ofList (cause.toList.flatMap fun c =>
    if c = '\n' then '\n' :: margin.toList else [c]) ++ "\n"

/-- The lines of the causes; several are numbered from zero. -/
def causeLines (causes : List String) : String :=
  match causes with
  | [cause] => causeText "    " "    " cause
  | _ => String.join (causes.zipIdx.map fun c =>
      causeText ("    " ++ toString c.2 ++ ": ") "       " c.1)

def text (r : Report) : String :=
  "Error: " ++ r.message ++ "\n" ++
    if r.causes.isEmpty then "" else "\nCaused by:\n" ++ causeLines r.causes

end Report

end LocaleClock
