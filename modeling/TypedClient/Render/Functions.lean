import TypedClient.Render.TypeHint
import TypedClient.Text.Blank

/-!
# Functions of the client module

What the client module says about each call, ready to be laid out.
-/

namespace TypedClient.Render

open Client (Mode)
open OpenApi (Method)
open Plan

/-- The arguments with which a model is turned into JSON. -/
def jsonArguments : String := "by_alias=True, exclude_none=True"

/-- The argument for the way of requests. -/
def proxyParameter : Mode → String
  | .blocking => "proxies: Optional[dict] = None"
  | .awaiting => "proxy: Optional[str] = None"

/-- The parameters of a function.  The body comes first and by position only; what has to do with
the request as such goes by keyword. -/
def parameters (c : Call) (mode : Mode) : List String :=
  (match c.body with
    | some type => ["req_data: " ++ typeHint type, "/"]
    | none => []) ++
  c.pathParameters.map (fun p => p.name ++ ": " ++ p.type.hint) ++
  ["*"] ++
  (match c.queryModel with
    | some name => ["params: " ++ name]
    | none => []) ++
  ["headers: Optional[dict] = None", proxyParameter mode, "**kwargs"]

/-- The annotation of the result. -/
def returnHint (c : Call) : String :=
  match c.response with
  | some type => optional (typeHint type)
  | none => "None"

/-- The name of the constant with the address of the service. -/
def baseUrlName : String := "BASE_URL"

/-- The expression for the address of a call: a formatted literal if arguments go into the path. -/
def urlExpression (c : Call) : String :=
  if c.shape.isTemplate then
    "f\"\x7b" ++ baseUrlName ++ "\x7d" ++
      String.ofList (Lexical.escapeText c.urlTemplate.toList) ++ "\""
  else baseUrlName ++ " + " ++ Lexical.quote c.urlTemplate

/-- The argument for the query. -/
def queryArgument (c : Call) : Option String :=
  if c.shape.hasQuery then some "params=_query_params(params)" else none

/-- The argument for the body.  Models go through their JSON form, in which dates are texts. -/
def bodyArgument : TypeRef → String
  | .model _ => "json=json.loads(req_data.json(" ++ jsonArguments ++ "))"
  | .modelList _ =>
    "json=[json.loads(item.json(" ++ jsonArguments ++ ")) for item in req_data]"
  | _ => "json=req_data"

/-- The expression for what the service answered. -/
def payload : Mode → String
  | .blocking => "response_obj.json()"
  | .awaiting => "await response_obj.json()"

/-- The expression for the result of a function. -/
def returnExpression (type : TypeRef) (mode : Mode) : String :=
  match type with
  | .model name => name ++ ".parse_obj(" ++ payload mode ++ ")"
  | .modelList name => "[" ++ name ++ ".parse_obj(item) for item in " ++ payload mode ++ "]"
  | _ => payload mode

/-- A docstring may not end in a quote, which would belong to the closing ones. -/
def spaceAfterQuote (text : String) : String :=
  if text.toList.getLast? == some '"' then text ++ " " else text

/-- The docstring of a function, if there is anything to say. -/
def functionDocstring (c : Call) : Option String :=
  match c.summary.toList ++ (if c.deprecated then ["Deprecated."] else []) with
  | [] => none
  | parts => some (spaceAfterQuote ("\n\n    ".intercalate parts))

/-- A client function. -/
structure ClientFunction where
  name : String
  method : String
  /-- Whether the HTTP library has a function for the method. -/
  hasShortcut : Bool
  shape : CallShape
  parameters : List String
  returnHint : String
  urlExpression : String
  queryArgument : Option String
  bodyArgument : Option String
  /-- A function without one returns nothing. -/
  returnExpression : Option String
  docstring : Option String

/-- The function of a call. -/
def ClientFunction.ofCall (mode : Mode) (c : Call) : ClientFunction where
  name := c.functionName
  method := c.method.name
  hasShortcut := c.method != Method.trace
  shape := c.shape
  parameters := Render.parameters c mode
  returnHint := Render.returnHint c
  urlExpression := Render.urlExpression c
  queryArgument := Render.queryArgument c
  bodyArgument := c.body.map Render.bodyArgument
  returnExpression := c.response.map fun type => Render.returnExpression type mode
  docstring := functionDocstring c

end TypedClient.Render
