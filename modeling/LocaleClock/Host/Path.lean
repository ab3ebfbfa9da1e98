/-! Paths as texts: components with slashes between them. A path that starts with a slash is
absolute. -/

namespace LocaleClock.Path

def isAbsolute (path : String) : Bool := path.toList.head? == some '/'

/-- Holds of the texts that can be paths: a path has no character with the number zero. -/
def isValid (path : String) : Bool := !path.toList.contains '\x00'

/-- The components of a path, empty ones included. -/
def components (path : String) : List String :=
  (path.toList.splitOnP (· == '/')).map String.ofList

def join (directory name : String) : String :=
  if directory.isEmpty || directory.toList.getLast? == some '/' then directory ++ name
  else directory ++ "/" ++ name

/-! ### The directories around a path -/

/-- The ways that end in a component of their own, from the whole way to the shortest. Ways are
lists of components in reverse. Empty components stand for nothing, and so does a dot, unless a
relative way starts with it. -/
def waysUp (absolute : Bool) : List String → List (List String)
  | [] => []
  | part :: above =>
    if part = "" ∨ (part = "." ∧ (absolute ∨ above ≠ [])) then waysUp absolute above
    else (part :: above) :: waysUp absolute above

/-- The paths of these ways, as they are written in the path. -/
def pathsUp (path : String) : List String :=
  let absolute := isAbsolute path
  let reversed := (components path).reverse
  (waysUp absolute (if absolute then reversed.dropLast else reversed)).map fun way =>
    let text := "/".intercalate way.reverse
    if absolute then "/" ++ text else text

/-- The directory that a path is in: empty when the path has one component, none for the root and
for the empty path. -/
def parent? (path : String) : Option String :=
  match pathsUp path with
  | [] => none
  | [_] => some (if isAbsolute path then "/" else "")
  | _ :: parent :: _ => some parent

/-- A path and the directories around it that have a name, from the inside to the outside. -/
def withParents (path : String) : List String :=
  match pathsUp path with
  | [] => []
  | _ :: parents => path :: parents

end LocaleClock.Path
