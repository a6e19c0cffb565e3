import TypedClient.Files.Tree
import TypedClient.Json.Printer
import TypedClient.OpenApi.Decode
import TypedClient.Url.Basic

/-!
# Errors of a run

Everything that can keep a client from being generated, by cause.  `GenerationError.message` gives
each cause its wording.
-/

namespace TypedClient

open Files (FileError)
open OpenApi (DecodeError)
open Url (UrlError)

/-- What can be wrong with the records of a document. -/
inductive DocumentProblem where
  /-- A path item that is no object. -/
  | pathItem (path : String)
  /-- A record that cannot be read. -/
  | record (location : String) (error : DecodeError)
  /-- A word that names no HTTP method. -/
  | method (word : String)

/-- Why a reference leads nowhere. -/
inductive ReferenceProblem where
  /-- There is nothing at its end. -/
  | dangling (reference : String)
  /-- It leaves the document. -/
  | external (reference : String)
  /-- It goes through more references than are followed inside a document. -/
  | deepChain (limit : Nat)
  /-- It goes through more alias components than are followed. -/
  | deepAlias (reference : String)
  /-- A body goes through more alias components than are followed. -/
  | deepBody
  /-- Its items lead back to itself. -/
  | endless (reference : String)

/-- What can be wrong with the settings of a run. -/
inductive SettingsProblem where
  | emptyModule
  | badModule (name : String)
  | reservedModule
  | equalModules (name : String)
  | badUrl (text : String) (error : UrlError)
  | foreignScheme (text scheme : String)
  | unknownMode (word : String)

/-- Why a document cannot be loaded. -/
inductive LoadProblem where
  /-- The file cannot be read. -/
  | unreadable (source : String) (error : FileError)
  /-- The text is no YAML. -/
  | badYaml
  /-- The text is neither JSON nor YAML. -/
  | badText
  /-- The source is no web address. -/
  | notWeb (source : String)
  /-- The server cannot be reached; `detail` says what failed. -/
  | unreachable (source detail : String)
  /-- The server refuses. -/
  | refused (source : String) (status : Nat) (reason : String)

/-- Why templates cannot be rendered. -/
inductive RenderProblem where
  /-- A directory or a template is not there. -/
  | missing (name : String)
  /-- A template file cannot be read. -/
  | unreadable (error : FileError)
  /-- A template is malformed. -/
  | malformed
  /-- A template imports one that is not in the set. -/
  | missingImport (template imported : String)
  /-- The template to render is not in the set. -/
  | notInSet (template : String)
  /-- Rendering stops inside a template; `place` says where and `detail` why. -/
  | stopped (template place detail : String)

/-- Why a program cannot be run. -/
inductive ExecutionProblem where
  | notStarted (program : String) (error : FileError)

/-- Why no client is generated. -/
inductive GenerationError where
  | invalidDocument (problem : DocumentProblem)
  | missingRoot (key : String)
  | unsupportedType (owner field token : String)
  | unresolved (problem : ReferenceProblem)
  | functionCollision (name first second : String)
  | modelCollision (name first second : String)
  | enumCollision (name : String) (first second : List Json)
  | rendering (problem : RenderProblem)
  | execution (problem : ExecutionProblem)
  | loading (problem : LoadProblem)
  | invalidSettings (problem : SettingsProblem)
  /-- The text is no JSON. -/
  | notJson

/-- The wording of a problem with a document. -/
def DocumentProblem.message : DocumentProblem → String
  | pathItem path => "Path item '" ++ path ++ "' is not an object"
  | record location error => "Invalid " ++ location ++ ": " ++ error.message
  | method word => "unknown HTTP method '" ++ word ++ "'"

/-- The wording of a problem with a reference. -/
def ReferenceProblem.message : ReferenceProblem → String
  | dangling reference => reference
  | external reference => reference ++ " (external references are not supported)"
  | deepChain limit => "reference chain deeper than " ++ toString limit ++ " levels"
  | deepAlias reference => reference ++ " (alias chain too deep)"
  | deepBody => "body schema alias chain too deep"
  | endless reference => reference ++ " (items lead back to themselves)"

/-- The wording of a problem with the settings. -/
def SettingsProblem.message : SettingsProblem → String
  | emptyModule => "Module name cannot be empty"
  | badModule name => "Module name '" ++ name ++ "' is not a valid Python identifier"
  | reservedModule => "Module name '__init__' is reserved for the package marker"
  | equalModules name => "Schema and client modules must differ, both are '" ++ name ++ "'"
  | badUrl text error => "Invalid base URL '" ++ text ++ "': " ++ error.message
  | foreignScheme text scheme =>
    "Base URL '" ++ text ++ "' must use http or https, not " ++ scheme
  | unknownMode word => "unknown client mode '" ++ word ++ "', expected 'sync' or 'async'"

/-- The wording of a problem with loading. -/
def LoadProblem.message : LoadProblem → String
  | unreadable source error => "Failed to read " ++ source ++ ": " ++ error.message
  | badYaml => "Failed to parse YAML"
  | badText => "Failed to parse OpenAPI document"
  | notWeb source => "HttpOpenApiLoader only handles HTTP(S) URLs, got: " ++ source
  | unreachable source detail =>
    "Failed to fetch OpenAPI document from " ++ source ++ ": " ++ detail
  | refused source status reason =>
    "HTTP " ++ toString status ++ " " ++ reason ++ " when fetching " ++ source

/-- The wording of a problem with rendering. -/
def RenderProblem.message : RenderProblem → String
  | missing name => "Template not found: " ++ name
  | unreadable error => "IO error: " ++ error.message
  | malformed => "Failed to parse"
  | missingImport template imported =>
    "Template `" ++ template ++ "` loads macros from `" ++ imported ++
      "` which isn't present in Tera"
  | notInSet template =>
    "Failed to render " ++ template ++ ": Template '" ++ template ++ "' not found"
  | stopped template place detail =>
    "Failed to render " ++ template ++ ": Failed to render '" ++ template ++ "'" ++ place ++ ": " ++
      detail

/-- The wording of a problem with a program. -/
def ExecutionProblem.message : ExecutionProblem → String
  | notStarted program error =>
    "Failed to execute '" ++ program ++ "': " ++ error.message

/-- The values of an enumeration as they are shown in messages. -/
def showValues (values : List Json) : String := (Json.array values).text

namespace GenerationError

/-- The wording of an error. -/
def message : GenerationError → String
  | invalidDocument problem => "Validation error: " ++ problem.message
  | missingRoot key => "Missing required root key '" ++ key ++ "' in OpenAPI document"
  | unsupportedType owner field token =>
    "Unsupported type '" ++ token ++ "' for field '" ++ field ++ "' of '" ++ owner ++ "'"
  | unresolved problem => "Unable to resolve reference: " ++ problem.message
  | functionCollision name first second =>
    "Function name '" ++ name ++ "' generated for operation '" ++ second ++
      "' collides with operation '" ++ first ++ "'"
  | modelCollision name first second =>
    "Model name '" ++ name ++ "' produced by '" ++ second ++ "' collides with '" ++ first ++ "'"
  | enumCollision name first second =>
    "Enum '" ++ name ++ "' is declared twice with different members (" ++ showValues first ++
      " vs " ++ showValues second ++ ")"
  | rendering problem => "Render error: " ++ problem.message
  | execution problem => "Post-processing error: " ++ problem.message
  | loading problem => "OpenAPI loading error: " ++ problem.message
  | invalidSettings problem => "Invalid configuration: " ++ problem.message
  | notJson => "Serialization error"

/-- Whether the message ends where a detailed account of a malformed text would begin. -/
def isMalformedText : GenerationError → Bool
  | rendering .malformed => true
  | loading .badYaml => true
  | loading .badText => true
  | notJson => true
  | _ => false

end GenerationError

end TypedClient
