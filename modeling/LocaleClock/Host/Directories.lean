import LocaleClock.Host.Basic
import LocaleClock.Host.Path

/-! Making directories together with those around them. The innermost one is tried first; only where
the one around it is missing is that made before. -/

namespace LocaleClock.Host

variable {m : Type → Type} [Monad m] [Host m]

def ensureDirectory (path : String) : m (Except FileError Unit) := do
  match ← makeDirectory path with
  | .error .alreadyExists =>
    if ← isDirectory path then return .ok () else return .error .alreadyExists
  | made => return made

/-- Makes the first directory of a list, where each is in the one after it. -/
def ensureFirst : List String → m (Except FileError Unit)
  | [] => return .ok ()
  | path :: around => do
    match ← ensureDirectory path with
    | .error .notFound =>
      match ← ensureFirst around with
      | .ok () => ensureDirectory path
      | .error e => return .error e
    | made => return made

/-- Makes a directory and those around it, where they are missing. -/
def makeDirectories (path : String) : m (Except FileError Unit) :=
  ensureFirst (Path.withParents path)

end LocaleClock.Host
