import TypedClient.Client.Settings

/-!
# Requests

A request names a document and the settings of a run; a request to generate names the directory to
write to as well.  What a user can get wrong in it is found before anything is read.
-/

namespace TypedClient.Client

/-- A request to generate a client. -/
structure GenerateRequest where
  /-- The path or web address of the document. -/
  source : String
  /-- The directory to write to. -/
  output : List Char
  settings : Settings

/-- A request to show the plan of a client. -/
structure InspectRequest where
  /-- The path or web address of the document. -/
  source : String
  mode : Mode
  baseUrl : Option String
  filter : OperationFilter

/-- What can be wrong with a request. -/
inductive RequestProblem where
  | noSource
  | badModule (problem : SettingsProblem)
  | badBaseUrl (problem : SettingsProblem)
  | equalModules (name : String)

/-- The wording of a problem with a request. -/
def RequestProblem.message : RequestProblem → String
  | noSource => "Missing required field: OpenAPI document source"
  | badModule problem =>
    "Invalid module name: " ++ (GenerationError.invalidSettings problem).message
  | badBaseUrl problem => "Invalid base URL: " ++ (GenerationError.invalidSettings problem).message
  | equalModules name =>
    "Invalid configuration: schema and client modules are both named '" ++ name ++ "'"

/-- Checks that the source is not blank. -/
def checkSource (source : String) : Except RequestProblem Unit :=
  if (Text.trim source.toList).isEmpty then .error .noSource else .ok ()

/-- Checks the address of the service, if one is given. -/
def checkAddress (baseUrl : Option String) : Except RequestProblem Unit :=
  match baseUrl with
  | none => .ok ()
  | some text => (checkBaseUrl text).mapError .badBaseUrl

/-- Checks the names of the two modules. -/
def checkModules (s : Settings) : Except RequestProblem Unit := do
  (checkModule s.schemaModule).mapError .badModule
  (checkModule s.clientModule).mapError .badModule
  if s.schemaModule == s.clientModule then throw (.equalModules s.schemaModule)

/-- Checks a request to generate: the source first, then the modules, then the address. -/
def GenerateRequest.check (r : GenerateRequest) : Except RequestProblem Unit := do
  checkSource r.source
  checkModules r.settings
  checkAddress r.settings.baseUrl

/-- Checks a request to inspect. -/
def InspectRequest.check (r : InspectRequest) : Except RequestProblem Unit := do
  checkSource r.source
  checkAddress r.baseUrl

/-- The settings of a request to inspect.  Nothing is written, so its modules have their usual
names. -/
def InspectRequest.settings (r : InspectRequest) : Settings :=
  { mode := r.mode, baseUrl := r.baseUrl, filter := r.filter }

theorem checkAddress_none : checkAddress none = .ok () := rfl

end TypedClient.Client
