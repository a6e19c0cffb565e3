import TypedClient.CommandLine.Command
import TypedClient.Run

/-!
# Sessions

A session is one use of the program: from its arguments and the files it can see to the files it
leaves behind, what it prints and the exit code.  A failed session prints what failed and, line by
line, why.
-/

namespace TypedClient.CommandLine

open Files (FileTree)
open Formatting (Executor)
open Loading (Fetch)

/-- What a session leaves behind. -/
structure Session where
  exitCode : Nat
  output : String
  errors : String
  tree : FileTree

/-- A reason for a failure: its text, and whether a detailed account of a malformed text would
follow it. -/
structure Cause where
  text : String
  isMalformedText : Bool := false

/-- The reasons for a failed run, each inside the one before. -/
def causesOfRun : RunError → List Cause
  | .request problem => [⟨(RunError.request problem).message, false⟩, ⟨problem.message, false⟩]
  | .generation e =>
    [⟨(RunError.generation e).message, e.isMalformedText⟩, ⟨e.message, e.isMalformedText⟩]
  | .output problem => [⟨(RunError.output problem).message, false⟩]

/-- The reasons for a failed configuration, each inside the one before. -/
def causesOfConfiguration (e : ConfigurationError) : List Cause :=
  match e with
  | .unreadable inner => [⟨e.message, false⟩, ⟨inner.message, false⟩]
  | .malformed => [⟨e.message, true⟩, ⟨"", true⟩]
  | _ => [⟨e.message, false⟩]

/-- A text in which every line but the first is indented. -/
def indented (width : Nat) (text : String) : List Char :=
  Text.replaceAll ['\n'] ('\n' :: List.replicate width ' ') text.toList

/-- Numbered reasons, one per line.  The account ends with a malformed text. -/
def numberedCauses (n : Nat) : List Cause → List Char
  | [] => []
  | c :: rest =>
    let line := List.replicate (5 - (Nat.toDigits 10 n).length) ' ' ++ Nat.toDigits 10 n ++
      [':', ' '] ++ indented 7 c.text
    if c.isMalformedText then line else line ++ '\n' :: numberedCauses (n + 1) rest

/-- The reasons below a failure.  A single one has no number. -/
def causeLines : List Cause → List Char
  | [c] => ' ' :: ' ' :: ' ' :: ' ' :: indented 4 c.text ++ ['\n']
  | causes => numberedCauses 0 causes

/-- The account of a failure. -/
def failureText (what : String) (causes : List Cause) : String :=
  "Error: " ++ what ++ "\n\nCaused by:\n" ++ String.ofList (causeLines causes)

/-- A session that ends with a failure. -/
def failed (t : FileTree) (what : String) (causes : List Cause) : Session :=
  ⟨1, "", failureText what causes, t⟩

/-- The name of the program and its version. -/
def versionText : String := Render.generatorName ++ "\n"

/-- How the program is used. -/
def usageText : String :=
  "Usage: pyclientgen [--verbose] generate [INPUT] [OUTPUT] [OPTIONS]\n" ++
  "       pyclientgen [--verbose] inspect INPUT [OPTIONS]\n"

/-- Generates a client with the settings of a file, if there is one, and those of the line. -/
def generateSession (fetch : Fetch) (executor : Executor) (t : FileTree)
    (file : Option (List Char)) (chosen : Configuration) : Session :=
  let loaded : Except ConfigurationError Configuration :=
    match file with
    | none => .ok {}
    | some path => Configuration.load t path
  match loaded with
  | .error e =>
    failed t ("Failed to load configuration from " ++ String.ofList (file.getD []))
      (causesOfConfiguration e)
  | .ok base =>
    let configuration := base.merge chosen
    match configuration.toRequest with
    | .error e => failed t "Incomplete generate settings" (causesOfConfiguration e)
    | .ok request =>
      let surroundings : Surroundings := {
        fetch := fetch
        templates := configuration.templateDirectory.elim .builtin .directory
        executor := executor
        formatters := Formatting.standardFormatters }
      let outcome := Run.generate surroundings request t
      match outcome.result with
      | .error e => failed outcome.tree "Failed to generate client" (causesOfRun e)
      | .ok report =>
        let lines := report.files.flatMap fun path => path ++ ['\n']
        ⟨0, String.ofList lines, "", outcome.tree⟩

/-- Shows the plan of a client. -/
def inspectSession (fetch : Fetch) (t : FileTree) (request : Client.InspectRequest) : Session :=
  match Run.inspect fetch request t with
  | .error e => failed t "Failed to resolve OpenAPI document" (causesOfRun e)
  | .ok plan => ⟨0, plan.toJson.pretty ++ "\n", "", t⟩

/-- The session of a command line. -/
def Session.ofArguments (fetch : Fetch) (executor : Executor) (arguments : List String)
    (t : FileTree) : Session :=
  match Command.ofArguments arguments with
  | .mistake => ⟨2, "", usageText, t⟩
  | .help => ⟨0, usageText, "", t⟩
  | .version => ⟨0, versionText, "", t⟩
  | .done (.generate file chosen) => generateSession fetch executor t file chosen
  | .done (.inspect request) => inspectSession fetch t request

end TypedClient.CommandLine
