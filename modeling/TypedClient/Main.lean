import TypedClient.CommandLine.Reach

/-!
# The program

Reads the files that a session looks at, runs the session, stores what it has changed and prints
what it prints.  There is no connection to the web here, and no formatter is started.
-/

namespace TypedClient

open Files (FileTree Place)

/-- Adds what is at a path to the known files. -/
def observe (t : FileTree) (path : List Char) : IO FileTree := do
  let name := String.ofList path
  if name.isEmpty then return t
  try
    let place ← IO.FS.realPath name
    if ← place.isDir then return (t.makeDirectories path).toOption.getD t
    return (t.write path (← IO.FS.readFile name)).toOption.getD t
  catch _ => return t

/-- Adds what is at paths, and above them, to the known files. -/
def observeAll (t : FileTree) (paths : List (List Char)) : IO FileTree :=
  (paths.flatMap CommandLine.withParents).foldlM observe t

/-- A place as a path from the root. -/
def rootPath (place : Place) : String := "/" ++ "/".intercalate place

/-- Runs a session. -/
def runSession (arguments : List String) : IO UInt32 := do
  let here ← IO.FS.realPath "."
  let start := FileTree.emptyAt ((Files.steps here.toString.toList).map String.ofList)
  let known ← observeAll start (CommandLine.lookedAt arguments start)
  let before ← observeAll known (CommandLine.lookedAt arguments known)
  let s := CommandLine.Session.ofArguments Loading.offline Formatting.noPrograms arguments before
  for place in s.tree.newDirectories before do IO.FS.createDirAll (rootPath place)
  for (place, text) in s.tree.changedFiles before do IO.FS.writeFile (rootPath place) text
  IO.print s.output
  IO.eprint s.errors
  return s.exitCode.toUInt32

end TypedClient

/-- Runs the program. -/
def main (arguments : List String) : IO UInt32 := TypedClient.runSession arguments
