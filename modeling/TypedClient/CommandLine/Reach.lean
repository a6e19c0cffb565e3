import TypedClient.CommandLine.Session

/-!
# What a session looks at

Which files a session looks at follows from its arguments and, if they name one, from the
configuration file.  Knowing these paths beforehand lets the files be read before the session
begins and written after it has ended.
-/

namespace TypedClient.CommandLine

open Files (FileTree)

/-- The path of a source, unless it is a web address. -/
def sourcePaths (source : String) : List (List Char) :=
  if Loading.isWebAddress source then [] else [source.toList]

/-- The paths of the templates in a directory. -/
def templatePaths (directory : List Char) : List (List Char) :=
  directory :: Render.builtinSet.map fun t => Files.join directory t.1.toList

/-- The paths that a configuration leads to. -/
def configurationPaths (c : Configuration) : List (List Char) :=
  (c.input.map sourcePaths).getD [] ++ (c.templateDirectory.map templatePaths).getD [] ++
    c.output.toList

/-- The paths that a session looks at, as far as the files known so far tell. -/
def lookedAt (arguments : List String) (t : FileTree) : List (List Char) :=
  match Command.ofArguments arguments with
  | .done (.generate file chosen) =>
    let loaded := file.bind fun path => (Configuration.load t path).toOption
    file.toList ++ configurationPaths ((loaded.getD {}).merge chosen)
  | .done (.inspect request) => sourcePaths request.source
  | _ => []

/-- A path with all those above it, topmost first. -/
def withParents (path : List Char) : List (List Char) :=
  climb path.length path
where
  /-- Climbs at most `levels` directories. -/
  climb : (levels : Nat) → List Char → List (List Char)
    | levels + 1, path =>
      match Files.parent? path with
      | some above => climb levels above ++ [path]
      | none => [path]
    | 0, path => [path]

end TypedClient.CommandLine
