import TypedClient.Json.Printer
import TypedClient.Render.TypeHint

/-!
# Classes of the models module

What the models module says about each enumeration and each model, ready to be laid out.
-/

namespace TypedClient.Render

open Plan

/-! ## Enumerations -/

/-- The literal of a value.  Lists and objects are written as texts. -/
def literal : Json → String
  | .string s => Lexical.quote s
  | .number n => n.text
  | .bool true => "True"
  | .bool false => "False"
  | .null => "None"
  | v => Lexical.quote v.text

/-- The base classes of an enumeration: with texts alone its members are texts themselves. -/
def enumBases (e : Enumeration) : String :=
  if e.members.all fun m => m.value.isString then "str, Enum" else "Enum"

/-- An enumeration class. -/
structure EnumClass where
  name : String
  bases : String
  /-- Identifiers with literals. -/
  members : List (String × String)

/-- The class of an enumeration. -/
def EnumClass.ofEnumeration (e : Enumeration) : EnumClass where
  name := e.name
  bases := enumBases e
  members := e.members.map fun m => (m.identifier, literal m.value)

/-! ## Models -/

/-- The annotation of a field of a model. -/
def fieldHint (m : Model) (f : Field) : String :=
  if isWrapped m f then optional (kindHint f.kind) else kindHint f.kind

/-- The argument that names the field in messages, where the identifier does not. -/
def aliasArgument (f : Field) : String :=
  if f.needsAlias then ", alias=" ++ Lexical.quote f.wireName else ""

/-- The default of a field of a model. -/
def fieldDefault (m : Model) (f : Field) : String :=
  match f.optional, usesFieldCall m f with
  | true, true => " = Field(None" ++ aliasArgument f ++ ")"
  | true, false => " = None"
  | false, true => " = Field(..." ++ aliasArgument f ++ ")"
  | false, false => ""

/-- The declaration of a field inside its model. -/
def fieldDeclaration (m : Model) (f : Field) : String :=
  f.name ++ ": " ++ fieldHint m f ++ fieldDefault m f

/-- A function that checks a field. -/
structure ValidatorFunction where
  name : String
  field : String
  message : String

/-- The function of a check. -/
def ValidatorFunction.ofValidator (v : Validator) : ValidatorFunction where
  name := v.functionName
  field := v.field
  message := v.field ++ " may not be None"

/-- A model class. -/
structure ModelClass where
  name : String
  /-- The declarations of the fields. -/
  fields : List String
  validators : List ValidatorFunction
  /-- Whether some field has a name of its own in messages. -/
  hasAliases : Bool

/-- The class of a model. -/
def ModelClass.ofModel (m : Model) : ModelClass where
  name := m.name
  fields := m.fields.map (fieldDeclaration m)
  validators := m.validators.map .ofValidator
  hasAliases := m.hasAliases

/-- The models whose forward references are resolved once every class is there. -/
def forwardModels (models : List Model) : List String :=
  (models.filter Model.hasForward).map Model.name

end TypedClient.Render
