import TypedClient.Render.Artifacts

/-!
# Formatting

Formatters are programs that change the generated modules in place.  A formatter may do anything
to the files and may fail; neither keeps a run from ending well.  What is reported for a module
afterwards is what its file holds.
-/

namespace TypedClient.Formatting

open Files (FileTree fileName? extension? parent?)
open Render (Artifact)

/-- A formatter: its program and the arguments in front of the file names. -/
structure Formatter where
  program : String
  arguments : List String

/-- The formatters of a run that names no others. -/
def standardFormatters : List Formatter := [
  ⟨"black", ["--quiet"]⟩,
  ⟨"isort", ["--profile", "black", "--quiet"]⟩]

/-- A program with its arguments and the directory it runs in. -/
structure Invocation where
  program : String
  arguments : List String
  directory : List Char

/-- What a program leaves behind besides its files. -/
structure ProgramResult where
  exitCode : Int
  output : String
  errors : String

/-- Whether a program has succeeded. -/
def ProgramResult.isSuccess (r : ProgramResult) : Bool := r.exitCode == 0

/-- What programs do.  It may depend on the programs that ran before and on the files, and it may
change the files. -/
abbrev Executor (files : Type := FileTree) :=
  (earlier : List Invocation) → Invocation → files →
    files × Except ExecutionProblem ProgramResult

/-- An executor that starts no program. -/
def noPrograms : Executor := fun _ call t => (t, .error (.notStarted call.program .notFound))

/-- Whether a file is a module. -/
def isModule (a : Artifact) : Bool := extension? a.path == some ['p', 'y']

/-- Whether a file is handed to the formatters: modules with something in them. -/
def isTarget (a : Artifact) : Bool := isModule a && !(Text.trim a.text.toList).isEmpty

/-- The names of the files that are handed to the formatters. -/
def targetNames (artifacts : List Artifact) : List String :=
  (artifacts.filter isTarget).filterMap fun a => (fileName? a.path).map String.ofList

/-- The directory of the first file that is handed to the formatters. -/
def workingDirectory? (artifacts : List Artifact) : Option (List Char) :=
  (artifacts.find? isTarget).bind fun a => parent? a.path

/-- The programs that formatting runs, in order. -/
def invocations (formatters : List Formatter) (artifacts : List Artifact) : List Invocation :=
  match workingDirectory? artifacts with
  | none => []
  | some directory =>
    formatters.map fun f => ⟨f.program, f.arguments ++ targetNames artifacts, directory⟩

section Run

variable {files : Type}

/-- Runs programs one after another.  `earlier` are those that ran before. -/
def runAll (executor : Executor files) (earlier : List Invocation) (t : files) :
    List Invocation → files
  | [] => t
  | call :: rest => runAll executor (earlier ++ [call]) (executor earlier call t).1 rest

theorem runAll_nil (executor : Executor files) (earlier : List Invocation) (t : files) :
    runAll executor earlier t [] = t := rfl

theorem runAll_append (executor : Executor files) (earlier : List Invocation) (t : files)
    (calls others : List Invocation) :
    runAll executor earlier t (calls ++ others) =
      runAll executor (earlier ++ calls) (runAll executor earlier t calls) others := by
  induction calls generalizing earlier t with
  | nil => simp [runAll]
  | cons call calls ih => simp [runAll, ih]

end Run

/-- A module with the text that its file holds now, if the file can be read. -/
def reload {error : Type} (read : List Char → Except error String) (a : Artifact) : Artifact :=
  if isModule a then
    match read a.path with
    | .ok text => { a with text := text }
    | .error _ => a
  else a

/-- What formatting leaves behind. -/
structure Formatted (files : Type := FileTree) where
  tree : files
  artifacts : List Artifact
  /-- The programs that ran, in order. -/
  calls : List Invocation

/-- Formats written files, if that is asked for and there is a file to format.  The files may be
kept in any way, as long as they can be read. -/
def formatBy {files error : Type} (read : files → List Char → Except error String)
    (executor : Executor files) (formatters : List Formatter) (isAsked : Bool)
    (artifacts : List Artifact) (t : files) : Formatted files :=
  if isAsked && (workingDirectory? artifacts).isSome then
    let calls := invocations formatters artifacts
    let formatted := runAll executor [] t calls
    ⟨formatted, artifacts.map (reload (read formatted)), calls⟩
  else ⟨t, artifacts, []⟩

/-- Formats written files of a file tree. -/
def format (executor : Executor) (formatters : List Formatter) (isAsked : Bool)
    (artifacts : List Artifact) (t : FileTree) : Formatted :=
  formatBy FileTree.read executor formatters isAsked artifacts t

/-- Reloading keeps the path. -/
theorem reload_path {error : Type} (read : List Char → Except error String) (a : Artifact) :
    (reload read a).path = a.path := by
  unfold reload
  split
  · split <;> rfl
  · rfl

/-- Nothing is run unless it is asked for. -/
theorem format_not_asked (executor : Executor) (formatters : List Formatter)
    (artifacts : List Artifact) (t : FileTree) :
    format executor formatters false artifacts t = ⟨t, artifacts, []⟩ := rfl

end TypedClient.Formatting
