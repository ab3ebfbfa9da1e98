import LocaleClock.Host.Basic
import LocaleClock.Host.Path

/-! Trees of files. A tree gives a node to places, which are lists of names from the root; the root
is a directory. Paths are walked name by name, and each name on the way has to be a directory. -/

namespace LocaleClock

inductive Node where
  | file (content : ByteArray)
  | directory

/-- A way from the root. -/
abbrev Place := List String

structure FileTree where
  nodes : List (Place × Node)

namespace FileTree

def find? (t : FileTree) (p : Place) : Option Node :=
  if p = [] then some .directory else t.nodes.lookup p

/-- Puts a node at a place, instead of what was there. -/
def put (t : FileTree) (p : Place) (n : Node) : FileTree :=
  ⟨(p, n) :: t.nodes.filter fun e => e.1 != p⟩

/-! ### Walking -/

/-- A name has at most this many bytes. -/
def maxNameSize : Nat := 255

/-- A path has fewer bytes than this. -/
def pathSizeLimit : Nat := 4096

/-- What is wrong with a path before it is walked. -/
def checkPath (path : String) : Except FileError Unit :=
  if !Path.isValid path then .error .invalidPath
  else if path.isEmpty then .error .notFound
  else if pathSizeLimit ≤ path.utf8ByteSize then .error .nameTooLong
  else .ok ()

def checkDirectory (t : FileTree) (p : Place) : Except FileError Unit :=
  match t.find? p with
  | none => .error .notFound
  | some (.file _) => .error .notDirectory
  | some .directory => .ok ()

def child (p : Place) (name : String) : Except FileError Place :=
  if maxNameSize < name.utf8ByteSize then .error .nameTooLong else .ok (p ++ [name])

/-- Holds of the components that name nothing in a directory. -/
def isSpecial (part : String) : Bool := part == "" || part == "." || part == ".."

/-- Goes on from a directory by a component. -/
def step (t : FileTree) (p : Place) (part : String) : Except FileError Place := do
  t.checkDirectory p
  if part = ".." then return p.dropLast
  else if isSpecial part then return p
  else child p part

/-- Walks from a place. What is at the end need not be there. -/
def walk (t : FileTree) (p : Place) (parts : List String) : Except FileError Place :=
  parts.foldlM t.step p

def start (current : Place) (path : String) : Place := if Path.isAbsolute path then [] else current

/-- The place that a path leads to, seen from the current directory. -/
def locate (t : FileTree) (current : Place) (path : String) : Except FileError Place := do
  checkPath path
  t.walk (start current path) (Path.components path)

/-- The directory that the last component of a path is looked up in, and that component. Slashes at
the end of the path are passed over. -/
def locateLast (t : FileTree) (current : Place) (path : String) :
    Except FileError (Place × String) := do
  checkPath path
  let above := ((Path.components path).reverse.dropWhile (· = "")).tail.reverse
  let p ← t.walk (start current path) above
  t.checkDirectory p
  return (p, ((Path.components path).reverse.find? (· ≠ "")).getD "")

/-! ### Looking -/

def pathExists (t : FileTree) (current : Place) (path : String) : Bool :=
  match t.locate current path with
  | .ok p => (t.find? p).isSome
  | .error _ => false

def isDirectory (t : FileTree) (current : Place) (path : String) : Bool :=
  match t.locate current path with
  | .ok p => (t.checkDirectory p).toBool
  | .error _ => false

def readText (t : FileTree) (current : Place) (path : String) : Except FileError String := do
  match t.find? (← t.locate current path) with
  | none => .error .notFound
  | some .directory => .error .isDirectory
  | some (.file content) =>
    match String.fromUTF8? content with
    | some text => .ok text
    | none => .error .notText

/-! ### Changing -/

/-- The place of a file to write to, with what the file holds now. A path that ends with a slash
names a directory. -/
def openFile (t : FileTree) (current : Place) (path : String) :
    Except FileError (Place × Option ByteArray) := do
  let (p, name) ← t.locateLast current path
  if isSpecial name || path.toList.getLast? == some '/' then throw .isDirectory
  let p ← child p name
  match t.find? p with
  | none => return (p, none)
  | some .directory => throw .isDirectory
  | some (.file content) => return (p, some content)

/-- Gives a file a new text. -/
def writeText (t : FileTree) (current : Place) (path text : String) :
    Except FileError FileTree := do
  return t.put (← t.openFile current path).1 (.file text.toUTF8)

/-- Adds text to the end of a file; a missing file is made. -/
def append (t : FileTree) (current : Place) (path text : String) : Except FileError FileTree := do
  let (p, content) ← t.openFile current path
  return t.put p (.file (content.getD .empty ++ text.toUTF8))

def makeDirectory (t : FileTree) (current : Place) (path : String) :
    Except FileError FileTree := do
  let (p, name) ← t.locateLast current path
  if isSpecial name then throw .alreadyExists
  let p ← child p name
  if (t.find? p).isSome then throw .alreadyExists
  return t.put p .directory

end FileTree

end LocaleClock
