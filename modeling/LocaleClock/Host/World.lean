import LocaleClock.Host.FileTree

/-! A host as a value: a tree of files with a current directory, the places that the user has set,
the time with the zone it is shown in, and what has been written to the two streams. -/

namespace LocaleClock

structure World where
  files : FileTree
  current : Place
  home : String
  configHome : Option String
  time : Instant
  timeZone : TimeZone := .utc
  output : String
  errorOutput : String

namespace World

def localTime (w : World) : Moment := .of w.time (w.timeZone w.time)

def tryFiles (change : FileTree → Place → Except FileError FileTree) :
    StateM World (Except FileError Unit) := fun w =>
  match change w.files w.current with
  | .ok files => (.ok (), { w with files })
  | .error e => (.error e, w)

instance : Host (StateM World) where
  now := return (← get).time
  timeZone := return (← get).timeZone
  home := return (← get).home
  configHome := return (← get).configHome
  pathExists path := return (← get).files.pathExists (← get).current path
  readText path := return (← get).files.readText (← get).current path
  isDirectory path := return (← get).files.isDirectory (← get).current path
  makeDirectory path := tryFiles fun files current => files.makeDirectory current path
  writeText path text := tryFiles fun files current => files.writeText current path text
  openForAppending path := tryFiles fun files current => files.append current path ""
  append path text := do
    let _ ← tryFiles fun files current => files.append current path text
  print text := modify fun w => { w with output := w.output ++ text }
  printError text := modify fun w => { w with errorOutput := w.errorOutput ++ text }

end World

end LocaleClock
