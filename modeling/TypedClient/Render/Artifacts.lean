import TypedClient.Files.Tree
import TypedClient.Render.Templates
import TypedClient.Render.Variables
import TypedClient.Text.Blank

/-!
# Generated files

The files of a client: the models module, the client module and an empty module that makes their
directory a package.  Templates from a directory replace the built-in ones of the same name, and a
loader may give any templates.
-/

namespace TypedClient.Render

open Client (Settings)
open Files (FileError FileTree)
open Template

/-- A generated file. -/
structure Artifact where
  path : List Char
  text : String

/-- Where templates come from. -/
inductive TemplateSource where
  | builtin
  | directory (path : List Char)
  /-- A loader of the user's own, which may read files. -/
  | loader (load : FileTree → Except RenderProblem TemplateSet)

/-- Replaces a template by the one in a directory, if there is one. -/
def overrideFrom (tree : FileTree) (directory : List Char) (set : TemplateSet) (name : String) :
    Except RenderProblem TemplateSet :=
  let path := Files.join directory name.toList
  match tree.exists? path with
  | .error e => .error (.unreadable e)
  | .ok false => .ok set
  | .ok true =>
    match tree.read path with
    | .error e => .error (.unreadable e)
    | .ok text => .ok (set.insert name text)

/-- The templates of a source. -/
def TemplateSource.load (source : TemplateSource) (tree : FileTree) :
    Except RenderProblem TemplateSet :=
  match source with
  | builtin => .ok builtinSet
  | directory path =>
    match tree.exists? path with
    | .error e => .error (.unreadable e)
    | .ok false => .error (.missing (String.ofList path))
    | .ok true => (builtinSet.map Prod.fst).foldlM (overrideFrom tree path) builtinSet
  | loader load => load tree

/-- A module file of a name. -/
def moduleFile (name : String) : String := name ++ ".py"

/-- What is rendered, without white space at its end, as whole lines. -/
def finished (cs : List Char) : String := String.ofList (Text.trimEnd cs ++ ['\n'])

/-- Renders one template to a module. -/
def renderModule (l : Library) (template : String) (values : List (String × Json)) :
    Except RenderProblem String :=
  match l.render template values with
  | .ok cs => .ok (finished cs)
  | .error e => .error e

/-- The files that a set of templates gives. -/
def render (set : TemplateSet) (values : List (String × Json)) (s : Settings) :
    Except RenderProblem (List Artifact) := do
  let library ← Library.ofSet set
  let models ← renderModule library modelsName values
  let client ← renderModule library s.mode.clientTemplate values
  return [
    ⟨(moduleFile s.schemaModule).toList, models⟩,
    ⟨(moduleFile s.clientModule).toList, client⟩,
    ⟨(moduleFile Client.packageModule).toList, ""⟩]

/-- The files for a plan. -/
def artifacts (source : TemplateSource) (tree : FileTree) (p : Plan) (s : Settings) :
    Except RenderProblem (List Artifact) := do
  let set ← source.load tree
  render set (templateValues p s) s

end TypedClient.Render
