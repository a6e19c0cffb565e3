import TypedClient.Client.Settings
import TypedClient.OpenApi.Document
import TypedClient.Plan.Call
import TypedClient.Plan.Component
import TypedClient.Lexical.Docstring

/-!
# Calls of a document

Every operation that the filter allows becomes a call.  Path parameters become arguments, query
parameters a model of their own; headers and cookies are left out.  A parameter that stands in the
path but is not declared is a text.
-/

namespace TypedClient.Plan

open Client (Mode OperationFilter)
open OpenApi (Operation Parameter Schema)
open Text (replaceAll)

/-! ## Types of parameters and bodies -/

/-- The primitive of a schema that is no reference, if it has one. -/
def plainPrimitive? (s : Schema) : Option Primitive :=
  match s.primaryType? with
  | some "string" => some (.ofFormat (s.format.getD ""))
  | some token => Primitive.ofType? token
  | none => none

namespace Components

/-- The primitive that a schema stands for behind `aliases` references, following at most
`follows` more. -/
def primitiveFrom (components : Components) :
    (follows : Nat) → Schema → Except GenerationError (Option Primitive)
  | follows, s =>
    match s.reference with
    | none => .ok (plainPrimitive? s)
    | some reference =>
      match follows with
      | 0 => .error (.unresolved (.dangling reference))
      | follows + 1 =>
        match components.target reference with
        | .error e => .error e
        | .ok (.aliasOf named) => components.primitiveFrom follows named
        | .ok (.enumeration _) => .ok (some .str)
        | .ok (.model _) => .ok none

/-- The primitive that a schema stands for, if it stands for one. -/
def primitive? (components : Components) (s : Schema) :
    Except GenerationError (Option Primitive) :=
  components.primitiveFrom (maxAliases + 1) s

end Components

/-- What the schema of a body amounts to. -/
inductive BodyShape where
  | typed (type : TypeRef)
  /-- Nothing but null. -/
  | noContent
  /-- No shape that has a type. -/
  | unmatched

/-- A body with the type, if there is one. -/
def BodyShape.ofType? : Option TypeRef → BodyShape
  | some type => typed type
  | none => unmatched

/-- The type of a request body: there is one in any case. -/
def BodyShape.request : BodyShape → TypeRef
  | typed type => type
  | _ => .any

/-- The type of a response body; a response without content has none. -/
def BodyShape.response? : BodyShape → Option TypeRef
  | typed type => some type
  | noContent => none
  | unmatched => some .any

namespace Components

/-- The shape of a list body. -/
def listShape (components : Components) (items : Schema) : Except GenerationError BodyShape := do
  let named ←
    match items.reference with
    | none => pure none
    | some reference => some <$> components.target reference
  match named with
  | some (.model name) => return .typed (.modelList name)
  | _ => return .ofType? ((← components.primitive? items).map .primitiveList)

/-- The shape of a body that is neither a list nor a reference. -/
def plainShape (components : Components) (s : Schema) : Except GenerationError BodyShape := do
  let values ←
    match s.additional with
    | some (.schema values) => components.primitive? values
    | _ => pure none
  match values, s.type with
  | some p, _ => return .typed (.map p)
  | none, none => return .unmatched
  | none, some type =>
    if type.primary?.isNone then return .noContent
    else return .ofType? ((← components.primitive? s).map .primitive)

/-- The shape of a body, looking at no more than `looks` schemas. -/
def bodyShapeFrom (components : Components) :
    (looks : Nat) → Schema → Except GenerationError BodyShape
  | 0, _ => .error (.unresolved .deepBody)
  | looks + 1, s =>
    match s.items, s.reference with
    | some items, _ => components.listShape items
    | none, some reference =>
      match components.target reference with
      | .error e => .error e
      | .ok (.model name) => .ok (.typed (.model name))
      | .ok (.enumeration _) => .ok (.typed (.primitive .str))
      | .ok (.aliasOf named) => components.bodyShapeFrom looks named
    | none, none => components.plainShape s

/-- The shape of a body. -/
def bodyShape (components : Components) (s : Schema) : Except GenerationError BodyShape :=
  components.bodyShapeFrom (maxAliases + 1) s

end Components

/-! ## Paths -/

/-- The name between braces as it stands in a path. -/
def braced (name : List Char) : List Char := '\x7b' :: name ++ ['\x7d']

/-- The names that stand between braces in a path, from the left.  `name` holds what was read since
the last opening brace, backwards. -/
def bracedNames (name : Option (List Char)) : List Char → List (List Char)
  | [] => []
  | c :: cs =>
    if c == '\x7b' then bracedNames (some []) cs
    else if c == '\x7d' then
      match name with
      | some (d :: ds) => (d :: ds).reverse :: bracedNames none cs
      | _ => bracedNames none cs
    else bracedNames (name.map (c :: ·)) cs

/-- The parameters of a path: the declared ones, then those that stand in the path without being
declared, each once. -/
def allPathParameters (declared : List PathParameter) (path : String) : List PathParameter :=
  (bracedNames none path.toList).foldl (fun parameters name =>
    let wireName := String.ofList name
    if parameters.any fun p => p.wireName == wireName then parameters
    else parameters ++ [⟨Naming.parameterName wireName, wireName, .str⟩]) declared

/-- The path with arguments between its braces: each parameter in turn replaces its own name. -/
def templateOf (parameters : List PathParameter) (path : String) : String :=
  String.ofList (parameters.foldl (fun text p =>
    replaceAll (braced p.wireName.toList) (braced p.name.toList) text) path.toList)

/-! ## Calls -/

namespace Components

/-- The path parameter that a declaration gives. -/
def pathParameter (components : Components) (p : Parameter) :
    Except GenerationError PathParameter := do
  let type ←
    match p.schema with
    | some s => components.primitive? s
    | none => pure none
  return ⟨Naming.parameterName p.name, p.name, type.getD .str⟩

/-- The field of a query model that a declaration gives.  Its name is not yet distinct. -/
def queryField (components : Components) (queryName : String) (p : Parameter) :
    Claiming Field := do
  let property ←
    match p.schema with
    | some s => components.property queryName p.name s
    | none => pure ⟨.primitive .str, false, .standard⟩
  return {
    name := Naming.fieldName p.name
    wireName := p.name
    kind := property.kind
    optional := !p.required
    nullable := property.nullable
    visibility := .standard }

/-- What one declared parameter gives. -/
inductive Argument where
  | path (parameter : PathParameter)
  | query (field : Field)

/-- Reads a declared parameter, if calls have parameters at its location. -/
def argument? (components : Components) (queryName : String) (p : Parameter) :
    Claiming (Option Argument) :=
  match p.location with
  | .path => do
    let parameter ← liftM (components.pathParameter p)
    return some (.path parameter)
  | .query => do
    let field ← components.queryField queryName p
    return some (.query field)
  | .header => return none
  | .cookie => return none

/-- The path parameter, if it is one. -/
def Argument.path? : Argument → Option PathParameter
  | path parameter => some parameter
  | query _ => none

/-- The field of the query model, if it is one. -/
def Argument.query? : Argument → Option Field
  | path _ => none
  | query field => some field

/-- The type of the request body. -/
def requestType (components : Components) (o : Operation) :
    Except GenerationError (Option TypeRef) :=
  match o.requestBody.bind (·.json?) with
  | none => .ok none
  | some media =>
    match media.schema with
    | none => .ok (some .any)
    | some s => (components.bodyShape s).map fun shape => some shape.request

/-- The type of the response body: that of the first response with a JSON schema. -/
def responseType (components : Components) (o : Operation) :
    Except GenerationError (Option TypeRef) :=
  let schemas := o.responsesByPrecedence.filterMap fun (_, r) => r.json?.bind (·.schema)
  match schemas.head? with
  | none => .ok none
  | some s => (components.bodyShape s).map BodyShape.response?

end Components

/-- Makes the names of the fields distinct. -/
def distinctFields (fields : List Field) : List Field :=
  List.zipWith (fun name f => { f with name := name })
    (Lexical.uniqueAll [] (fields.map Field.name)) fields

/-- The model for query parameters, if there are any. -/
def queryModel? (name operationId : String) (fields : List Field) : Claiming (Option Model) :=
  match fields with
  | [] => return none
  | fields => do
    claimType name ("query parameters of " ++ operationId)
    return some {
      name := name
      fields := distinctFields fields
      validators := []
      origin := .queryParameters operationId }

/-- The summary as a docstring, if anything is left of it. -/
def summary? (o : Operation) : Option String :=
  match o.summary with
  | none => none
  | some text =>
    let words := Lexical.docstring text
    if words.isEmpty then none else some words

/-- The id of an operation, made from its method and path if it declares none. -/
def operationId (o : Operation) : String :=
  o.id.getD (Naming.fallbackOperationId o.method o.path)

/-- The call of an operation, with the model of its query parameters. -/
def Components.call (components : Components) (mode : Mode) (o : Operation) :
    Claiming (Call × Option Model) := do
  let id := operationId o
  let functionName := Naming.functionName o.tag o.method id
  claimFunction functionName o.endpoint
  let queryName := Naming.queryModelName functionName
  let declared ← o.parameters.mapM (components.argument? queryName)
  let arguments := declared.filterMap fun a => a
  let parameters := allPathParameters (arguments.filterMap Argument.path?) o.path
  let query ← queryModel? queryName id (arguments.filterMap Argument.query?)
  let body ← liftM (components.requestType o)
  let response ← liftM (components.responseType o)
  let call : Call := {
    operationId := id
    tag := o.tag
    functionName := functionName
    method := o.method
    urlTemplate := templateOf parameters o.path
    pathParameters := parameters
    queryModel := query.map Model.name
    body := body
    response := response
    shape := .select (!parameters.isEmpty) query.isSome
    mode := mode
    summary := summary? o
    deprecated := o.deprecated }
  return (call, query)

/-- The operations that the filter allows. -/
def allowed (filter : OperationFilter) (operations : List Operation) : List Operation :=
  operations.filter fun o => filter.allows (operationId o)

/-- The calls of the operations that the filter allows, in order. -/
def Components.calls (components : Components) (mode : Mode) (filter : OperationFilter)
    (operations : List Operation) : Claiming (List (Call × Option Model)) :=
  (allowed filter operations).mapM (components.call mode)

end TypedClient.Plan
