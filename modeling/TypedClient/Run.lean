import TypedClient.Client.Request
import TypedClient.Formatting
import TypedClient.Loading.Source
import TypedClient.Plan.Report

/-!
# Runs

A run to generate checks the request, loads the document, makes the plan and renders the files, and
only then writes anything.  A run to inspect ends with the plan.  The world that a run can see is a
parameter: the web, the templates, the formatters and what they do.
-/

namespace TypedClient

open Client (GenerateRequest InspectRequest RequestProblem)
open Files (FileError FileTree)
open Formatting (Executor Formatter Invocation)
open Render (Artifact TemplateSource)

/-- Why files cannot be written. -/
inductive OutputProblem where
  | directory (path : List Char) (error : FileError)
  | file (path : List Char) (error : FileError)

/-- The wording of a problem with writing. -/
def OutputProblem.message : OutputProblem → String
  | directory path error =>
    "Failed to create directory " ++ String.ofList path ++ ": " ++ error.message
  | file path error => "Failed to create file " ++ String.ofList path ++ ": " ++ error.message

/-- Why a run fails. -/
inductive RunError where
  | request (problem : RequestProblem)
  | generation (error : GenerationError)
  | output (problem : OutputProblem)

/-- The wording of an error. -/
def RunError.message : RunError → String
  | request problem => "Validation error: " ++ problem.message
  | generation error => "Generation error: " ++ error.message
  | output problem => "Output error: " ++ problem.message

/-- Whether the message ends where a detailed account of a malformed text would begin. -/
def RunError.isMalformedText : RunError → Bool
  | generation error => error.isMalformedText
  | _ => false

/-- The world of a run besides the files. -/
structure Surroundings where
  fetch : Loading.Fetch
  templates : TemplateSource
  executor : Executor
  formatters : List Formatter

/-- What a run to generate reports. -/
structure Report where
  output : List Char
  files : List (List Char)
  enums : Nat
  models : Nat
  operations : Nat

/-- What a run leaves behind. -/
structure Outcome where
  tree : FileTree
  /-- The programs that ran, in order. -/
  calls : List Invocation
  result : Except RunError Report

namespace Run

/-- Everything that happens before the first file is written: the plan and the rendered files. -/
def prepare (s : Surroundings) (r : GenerateRequest) (t : FileTree) :
    Except RunError (Plan × List Artifact) := do
  r.check.mapError .request
  let document ← (Loading.load s.fetch t r.source).mapError .generation
  let plan ← (Plan.build document r.settings).mapError .generation
  let artifacts ← (Render.artifacts s.templates t plan r.settings).mapError fun problem =>
    .generation (.rendering problem)
  return (plan, artifacts)

/-- A rendered file with its place inside the output directory. -/
def placed (output : List Char) (a : Artifact) : Artifact :=
  { a with path := Files.join output a.path }

/-- Makes a directory, and those above it, that files are written to. -/
def makeRoom (path : List Char) (t : FileTree) : Except OutputProblem FileTree :=
  (t.makeDirectories path).mapError (.directory path)

/-- Writes a file and makes its directory. -/
def writeOne (a : Artifact) (t : FileTree) : FileTree × Except OutputProblem Unit :=
  match makeRoom ((Files.parent? a.path).getD []) t with
  | .error problem => (t, .error problem)
  | .ok made =>
    match made.write a.path a.text with
    | .error e => (made, .error (.file a.path e))
    | .ok written => (written, .ok ())

/-- Writes files one after another, up to the first that cannot be written. -/
def writeAll (t : FileTree) : List Artifact → FileTree × Except OutputProblem Unit
  | [] => (t, .ok ())
  | a :: rest =>
    match writeOne a t with
    | (written, .ok ()) => writeAll written rest
    | (left, .error problem) => (left, .error problem)

/-- Makes the output directory and writes files to it. -/
def write (output : List Char) (artifacts : List Artifact) (t : FileTree) :
    FileTree × Except OutputProblem Unit :=
  match makeRoom output t with
  | .error problem => (t, .error problem)
  | .ok made => writeAll made artifacts

theorem writeAll_nil (t : FileTree) : writeAll t [] = (t, .ok ()) := rfl

/-- Generates a client. -/
def generate (s : Surroundings) (r : GenerateRequest) (t : FileTree) : Outcome :=
  match prepare s r t with
  | .error e => ⟨t, [], .error e⟩
  | .ok (plan, artifacts) =>
    let artifacts := artifacts.map (placed r.output)
    match write r.output artifacts t with
    | (left, .error problem) => ⟨left, [], .error (.output problem)⟩
    | (written, .ok ()) =>
      let formatted :=
        Formatting.format s.executor s.formatters r.settings.format artifacts written
      ⟨formatted.tree, formatted.calls, .ok {
        output := r.output
        files := formatted.artifacts.map Artifact.path
        enums := plan.enums.length
        models := plan.models.length
        operations := plan.calls.length }⟩

/-- A run that fails before it writes leaves the files alone. -/
theorem generate_tree_of_prepare_error {s : Surroundings} {r : GenerateRequest} {t : FileTree}
    {e : RunError} (h : prepare s r t = .error e) : generate s r t = ⟨t, [], .error e⟩ := by
  simp [generate, h]

/-- Makes the plan of a client. -/
def inspect (fetch : Loading.Fetch) (r : InspectRequest) (t : FileTree) : Except RunError Plan := do
  r.check.mapError .request
  let document ← (Loading.load fetch t r.source).mapError .generation
  (Plan.build document r.settings).mapError .generation

end Run

end TypedClient
