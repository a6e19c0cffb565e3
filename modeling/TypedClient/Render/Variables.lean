import TypedClient.Client.Settings
import TypedClient.Plan.Build
import TypedClient.Render.Classes
import TypedClient.Render.Functions
import TypedClient.Render.ImportLines

/-!
# Template variables

The variables that templates lay out, as one JSON object.
-/

namespace TypedClient.Render

open Client (Settings)
open Plan

/-- Name and version of the program, as they stand in generated files. -/
def generatorName : String := "pyclientgen 0.1.0"

/-- A list of texts as JSON. -/
def textsJson (texts : List String) : Json := .array (texts.map .string)

/-- A text that may be missing as JSON. -/
def optionJson : Option String → Json
  | some text => .string text
  | none => .null

/-- The variables of an enumeration class. -/
def EnumClass.toJson (e : EnumClass) : Json :=
  .object [
    ("name", .string e.name),
    ("bases", .string e.bases),
    ("members", .array (e.members.map fun (identifier, literal) =>
      .object [("identifier", .string identifier), ("literal", .string literal)]))]

/-- The variables of a checking function. -/
def ValidatorFunction.toJson (v : ValidatorFunction) : Json :=
  .object [
    ("function_name", .string v.name),
    ("field", .string v.field),
    ("message", .string v.message)]

/-- The variables of a model class. -/
def ModelClass.toJson (m : ModelClass) : Json :=
  .object [
    ("name", .string m.name),
    ("fields", textsJson m.fields),
    ("validators", .array (m.validators.map ValidatorFunction.toJson)),
    ("has_aliases", .bool m.hasAliases)]

/-- The variables of a client function. -/
def ClientFunction.toJson (f : ClientFunction) : Json :=
  .object [
    ("function_name", .string f.name),
    ("method", .string f.method),
    ("has_shortcut", .bool f.hasShortcut),
    ("call_shape", .string f.shape.name),
    ("parameters", textsJson f.parameters),
    ("return_annotation", .string f.returnHint),
    ("url_expression", .string f.urlExpression),
    ("params_argument", optionJson f.queryArgument),
    ("json_argument", optionJson f.bodyArgument),
    ("return_expression", optionJson f.returnExpression),
    ("docstring", optionJson f.docstring)]

/-- The variables for a plan. -/
def templateValues (p : Plan) (s : Settings) : List (String × Json) := [
  ("generator", .string generatorName),
  ("mode", .string p.mode.name),
  ("http_library", .string p.mode.httpLibrary),
  ("schema_module", .string s.schemaModule),
  ("client_module", .string s.clientModule),
  ("base_url", .string (Lexical.quote p.baseUrl)),
  ("models_stdlib_imports", textsJson (modelsStandardLines p.modelImports)),
  ("models_third_party_imports", textsJson (modelsLibraryLines p.modelImports)),
  ("enums", .array (p.enums.map fun e => (EnumClass.ofEnumeration e).toJson)),
  ("models", .array (p.models.map fun m => (ModelClass.ofModel m).toJson)),
  ("forward_models", textsJson (forwardModels p.models)),
  ("client_stdlib_imports", textsJson (clientLines p.clientImports)),
  ("client_models", textsJson p.clientImports.models),
  ("has_query", .bool p.clientImports.query),
  ("json_args", .string jsonArguments),
  ("operations", .array (p.calls.map fun c => (ClientFunction.ofCall p.mode c).toJson))]

end TypedClient.Render
