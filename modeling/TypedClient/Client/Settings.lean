import TypedClient.Client.Mode
import TypedClient.Error
import TypedClient.Lexical.Identifier

/-!
# Settings of a run

What a user chooses: the mode, the address of the service, the names of the generated modules and
the operations to include.  `Settings.validate` refuses names and addresses that generated code
could not use.
-/

namespace TypedClient.Client

/-- Which operations become calls. -/
structure OperationFilter where
  /-- The operations to include; all of them if the list is empty. -/
  included : List String := []
  /-- The operations to leave out, even if they are included. -/
  excluded : List String := []

/-- Whether an operation becomes a call. -/
def OperationFilter.allows (f : OperationFilter) (operationId : String) : Bool :=
  (f.included.isEmpty || f.included.contains operationId) && !f.excluded.contains operationId

/-- The settings of a run. -/
structure Settings where
  mode : Mode := .blocking
  baseUrl : Option String := none
  schemaModule : String := "schema"
  clientModule : String := "api"
  filter : OperationFilter := {}
  /-- Whether the formatters run over what was written. -/
  format : Bool := false

/-- The module that marks the directory as a package. -/
def packageModule : String := "__init__"

/-- Checks the name of a module. -/
def checkModule (name : String) : Except SettingsProblem Unit :=
  if name.isEmpty then .error .emptyModule
  else if !Lexical.isValidIdentifier name then .error (.badModule name)
  else if name == packageModule then .error .reservedModule
  else .ok ()

/-- Checks the address of the service. -/
def checkBaseUrl (text : String) : Except SettingsProblem Unit :=
  match Url.parse text with
  | .error e => .error (.badUrl text e)
  | .ok url =>
    let scheme := String.ofList url.scheme
    if scheme == "http" || scheme == "https" then .ok ()
    else .error (.foreignScheme text scheme)

/-- The address that is used when neither the user nor the document gives one. -/
def defaultBaseUrl : String := "http://localhost"

/-- The text without slashes at its end. -/
def trimSlashes (text : String) : String :=
  String.ofList (text.toList.reverse.dropWhile (· == '/')).reverse

/-- The address of the service: the user's, else the document's, without slashes at its end. -/
def selectBaseUrl (configured server : Option String) : String :=
  trimSlashes ((configured.or server).getD defaultBaseUrl)

/-- A name that is accepted is a valid identifier and not that of the package module. -/
theorem checkModule_eq_ok_iff (name : String) :
    checkModule name = .ok () ↔
      name ≠ "" ∧ Lexical.isValidIdentifier name = true ∧ name ≠ packageModule := by
  unfold checkModule
  by_cases h : name = "" <;> cases hv : Lexical.isValidIdentifier name <;>
    by_cases hp : name = packageModule <;> simp_all

namespace Settings

/-- Checks the settings: module names first, then the address. -/
def check (s : Settings) : Except SettingsProblem Unit := do
  checkModule s.schemaModule
  checkModule s.clientModule
  if s.schemaModule == s.clientModule then throw (.equalModules s.schemaModule)
  match s.baseUrl with
  | some text => checkBaseUrl text
  | none => pure ()

end Settings

end TypedClient.Client
