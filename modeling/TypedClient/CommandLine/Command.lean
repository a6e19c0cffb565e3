import TypedClient.CommandLine.Arguments

/-!
# Commands

There are two commands: one generates a client, with settings from the line and maybe from a file,
and one shows the plan of a client.
-/

namespace TypedClient.CommandLine

open Client (InspectRequest Mode)

/-- A command. -/
inductive Command where
  /-- Generates a client with the settings of the line laid over those of a file. -/
  | generate (file : Option (List Char)) (chosen : Configuration)
  /-- Shows the plan of a client. -/
  | inspect (request : InspectRequest)

/-- The options that both commands have. -/
def sharedOptions : OptionTable := [
  ("sync", .nothing),
  ("async", .nothing),
  ("base-url", .oneValue),
  ("include-operation", .manyValues),
  ("exclude-operation", .manyValues),
  ("verbose", .nothing)]

/-- The options of the command that generates. -/
def generateOptions : OptionTable := sharedOptions ++ [
  ("schema-module", .oneValue),
  ("client-module", .oneValue),
  ("template-dir", .oneValue),
  ("format", .nothing),
  ("config", .oneValue)]

/-- The mode that the options choose; both at once is a mistake. -/
def modeOf (g : Given) : Reading (Option Mode) :=
  match g.has "sync", g.has "async" with
  | true, true => .mistake
  | true, false => .done (some .blocking)
  | false, true => .done (some .awaiting)
  | false, false => .done none

/-- The address that the options give. -/
def baseUrlOf (g : Given) : Reading (Option Url) :=
  match g.value? "base-url" with
  | none => .done none
  | some text => .ofOption ((Url.parse text).toOption.map some)

/-- A path, which must not be empty. -/
def pathOf (text : Option String) : Reading (Option (List Char)) :=
  match text with
  | none => .done none
  | some text => if text.isEmpty then .mistake else .done (some text.toList)

/-- The command that generates. -/
def generateCommand (g : Given) : Reading Command :=
  if 2 < g.positional.length then .mistake
  else
    (modeOf g).andThen fun mode =>
    (baseUrlOf g).andThen fun baseUrl =>
    (pathOf g.positional[1]?).andThen fun output =>
    (pathOf (g.value? "template-dir")).andThen fun templateDirectory =>
    (pathOf (g.value? "config")).andThen fun file =>
    .done (.generate file {
      input := g.positional[0]?
      output := output
      mode := mode
      baseUrl := baseUrl
      schemaModule := g.value? "schema-module"
      clientModule := g.value? "client-module"
      templateDirectory := templateDirectory
      format := if g.has "format" then some true else none
      included := g.values "include-operation"
      excluded := g.values "exclude-operation" })

/-- The command that inspects. -/
def inspectCommand (g : Given) : Reading Command :=
  match g.positional with
  | [source] =>
    (modeOf g).andThen fun mode =>
    (baseUrlOf g).andThen fun baseUrl =>
    .done (.inspect {
      source := source
      mode := mode.getD .blocking
      baseUrl := baseUrl.map Url.text
      filter := ⟨g.values "include-operation", g.values "exclude-operation"⟩ })
  | _ => .mistake

/-- What a request for help is about. -/
def helpAbout : List String → Reading Command
  | [] => .help
  | [topic] => if ["generate", "inspect", "help"].contains topic then .help else .mistake
  | _ => .mistake

/-- Reads a command line.  `g` holds the options in front of the command. -/
def readCommand (g : Given) : List String → Reading Command
  | [] => .mistake
  | "generate" :: rest => (takeAll generateOptions false ⟨[], []⟩ rest).andThen generateCommand
  | "inspect" :: rest => (takeAll sharedOptions false ⟨[], []⟩ rest).andThen inspectCommand
  | "help" :: rest => helpAbout rest
  | "--help" :: _ => .help
  | "--version" :: _ => .version
  | "--verbose" :: rest =>
    (g.add "verbose" .nothing "").andThen fun g => readCommand g rest
  | argument :: rest =>
    match argument.toList with
    | '-' :: c :: cs =>
      if c == '-' then .mistake
      else (takeLetters true g (c :: cs)).andThen fun g => readCommand g rest
    | _ => .mistake

/-- The command of a line. -/
def Command.ofArguments (arguments : List String) : Reading Command :=
  readCommand ⟨[], []⟩ arguments

end TypedClient.CommandLine
