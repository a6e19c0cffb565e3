import TypedClient.Plan.Build

/-!
# Plans as JSON

A plan can be shown before anything is generated.  This is its form as a JSON value, with members
in a fixed order.
-/

namespace TypedClient.Plan

/-- A text that may be missing. -/
def textOrNull : Option String → Json
  | some text => .string text
  | none => .null

/-- A number that may be missing. -/
def numberOrNull : Option JsonNumber → Json
  | some n => .number n
  | none => .null

/-- A length that may be missing. -/
def lengthOrNull (n : Option Nat) : Json := numberOrNull (n.map fun k => .int k)

/-- A bound that may be missing. -/
def boundOrNull : Option Bound → Json
  | some b => .object [("value", .number b.value), ("comparator", .string b.comparator.name)]
  | none => .null

/-- The constraints of a number. -/
def NumberRange.toJson (r : NumberRange) : Json :=
  .object [
    ("lower", boundOrNull r.lower),
    ("upper", boundOrNull r.upper),
    ("multiple_of", numberOrNull r.multipleOf)]

/-- The constraints of a text. -/
def LengthRange.toJson (r : LengthRange) : Json :=
  .object [("min_length", lengthOrNull r.min), ("max_length", lengthOrNull r.max)]

/-- A kind, told apart by its word. -/
def Kind.toJson (kind : Kind) : Json :=
  .object (("kind", .string kind.word) ::
    match kind with
    | .primitive p => [("primitive", .string p.name)]
    | .boundedText range => [("constraints", range.toJson)]
    | .boundedInteger range => [("constraints", range.toJson)]
    | .boundedNumber range => [("constraints", range.toJson)]
    | .list items => [("items", items.toJson)]
    | .model name forward => [("name", .string name), ("forward", .bool forward)]
    | .enumeration name => [("name", .string name)]
    | .unknown => [])

/-- A field. -/
def Field.toJson (f : Field) : Json :=
  .object [
    ("name", .string f.name),
    ("wire_name", .string f.wireName),
    ("kind", f.kind.toJson),
    ("optional", .bool f.optional),
    ("nullable", .bool f.nullable),
    ("visibility", .string f.visibility.name)]

/-- A check.  There is one kind of checks. -/
def Validator.toJson (v : Validator) : Json :=
  .object [
    ("field", .string v.field),
    ("function_name", .string v.functionName),
    ("kind", .string "reject_null")]

/-- The origin of a model, told apart by its word. -/
def Origin.toJson : Origin → Json
  | component schema => .object [("origin", .string "component"), ("schema", .string schema)]
  | queryParameters operationId =>
    .object [("origin", .string "query_parameters"), ("operation_id", .string operationId)]

/-- A model. -/
def Model.toJson (m : Model) : Json :=
  .object [
    ("name", .string m.name),
    ("fields", .array (m.fields.map Field.toJson)),
    ("validators", .array (m.validators.map Validator.toJson)),
    ("order_index", .number (.int m.position)),
    ("variant", textOrNull (m.variant.map Variant.name)),
    ("origin", m.origin.toJson)]

/-- An enumeration. -/
def Enumeration.toJson (e : Enumeration) : Json :=
  .object [
    ("name", .string e.name),
    ("members", .array (e.members.map fun m =>
      .object [("identifier", .string m.identifier), ("value", m.value)]))]

/-- The type of a body, told apart by its shape. -/
def TypeRef.toJson : TypeRef → Json
  | model name => .object [("shape", .string "model"), ("name", .string name)]
  | modelList name => .object [("shape", .string "model_list"), ("name", .string name)]
  | primitive p => .object [("shape", .string "primitive"), ("primitive", .string p.name)]
  | primitiveList p =>
    .object [("shape", .string "primitive_list"), ("primitive", .string p.name)]
  | map values => .object [("shape", .string "map"), ("value", .string values.name)]
  | any => .object [("shape", .string "any")]

/-- The type of a body that may be missing. -/
def typeOrNull : Option TypeRef → Json
  | some type => type.toJson
  | none => .null

/-- A path parameter. -/
def PathParameter.toJson (p : PathParameter) : Json :=
  .object [
    ("name", .string p.name),
    ("wire_name", .string p.wireName),
    ("primitive", .string p.type.name)]

/-- A call. -/
def Call.toJson (c : Call) : Json :=
  .object [
    ("operation_id", .string c.operationId),
    ("tag", .string c.tag),
    ("function_name", .string c.functionName),
    ("http_method", .string c.method.name),
    ("url_template", .string c.urlTemplate),
    ("path_params", .array (c.pathParameters.map PathParameter.toJson)),
    ("query_model", textOrNull c.queryModel),
    ("body", typeOrNull c.body),
    ("response", typeOrNull c.response),
    ("call_shape", .string c.shape.name),
    ("mode", .string c.mode.name),
    ("summary", textOrNull c.summary),
    ("deprecated", .bool c.deprecated)]

/-- The imports of the models module. -/
def ModelImports.toJson (i : ModelImports) : Json :=
  .object [
    ("date", .bool i.date),
    ("datetime", .bool i.datetime),
    ("enums", .bool i.enums),
    ("optional", .bool i.optional),
    ("list", .bool i.list),
    ("any", .bool i.any),
    ("field", .bool i.field),
    ("validator", .bool i.validator),
    ("constr", .bool i.constr),
    ("conint", .bool i.conint),
    ("confloat", .bool i.confloat),
    ("forward_refs", .bool i.forwardRefs)]

/-- The imports of the client module. -/
def ClientImports.toJson (i : ClientImports) : Json :=
  .object [
    ("models", .array (i.models.map .string)),
    ("list", .bool i.list),
    ("dict", .bool i.dict),
    ("any", .bool i.any),
    ("date", .bool i.date),
    ("datetime", .bool i.datetime),
    ("json", .bool i.json),
    ("query", .bool i.query)]

/-- A plan. -/
def toJson (p : Plan) : Json :=
  .object [
    ("base_url", .string p.baseUrl),
    ("mode", .string p.mode.name),
    ("enums", .array (p.enums.map Enumeration.toJson)),
    ("models", .array (p.models.map Model.toJson)),
    ("operations", .array (p.calls.map Call.toJson)),
    ("model_imports", p.modelImports.toJson),
    ("client_imports", p.clientImports.toJson)]

end TypedClient.Plan
