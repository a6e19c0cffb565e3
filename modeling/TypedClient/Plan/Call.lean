import TypedClient.Client.Mode
import TypedClient.OpenApi.Method
import TypedClient.Plan.Kind

/-!
# Calls

A call is one function of the client module.  It stands for an operation of the service.
-/

namespace TypedClient.Plan

open Client (Mode)
open OpenApi (Method)

/-- The type of a body. -/
inductive TypeRef where
  | model (name : String)
  | modelList (name : String)
  | primitive (type : Primitive)
  | primitiveList (type : Primitive)
  | map (values : Primitive)
  | any

namespace TypeRef

/-- The model that a type refers to. -/
def model? : TypeRef → Option String
  | model name => some name
  | modelList name => some name
  | _ => none

/-- Changes the model that a type refers to. -/
def mapModel (f : String → String) : TypeRef → TypeRef
  | model name => model (f name)
  | modelList name => modelList (f name)
  | type => type

/-- Changing the reference changes the model that is referred to. -/
theorem model?_mapModel (f : String → String) (type : TypeRef) :
    (type.mapModel f).model? = type.model?.map f := by
  cases type <;> rfl

end TypeRef

/-- A parameter in the path of a call. -/
structure PathParameter where
  /-- The argument of the function. -/
  name : String
  /-- The name between the braces of the path. -/
  wireName : String
  type : Primitive

/-- What the address of a call depends on. -/
inductive CallShape where
  | static
  | staticWithQuery
  | template
  | templateWithQuery
  deriving DecidableEq

namespace CallShape

/-- The shape of a call with or without path parameters and a query. -/
def select (hasPath hasQuery : Bool) : CallShape :=
  match hasPath, hasQuery with
  | false, false => static
  | false, true => staticWithQuery
  | true, false => template
  | true, true => templateWithQuery

/-- The word for a shape. -/
def name : CallShape → String
  | static => "static"
  | staticWithQuery => "static_with_query"
  | template => "template"
  | templateWithQuery => "template_with_query"

/-- Whether the address depends on path parameters. -/
def isTemplate : CallShape → Bool
  | template => true
  | templateWithQuery => true
  | _ => false

/-- Whether the call has a query. -/
def hasQuery : CallShape → Bool
  | staticWithQuery => true
  | templateWithQuery => true
  | _ => false

theorem isTemplate_select (hasPath hasQuery : Bool) :
    (select hasPath hasQuery).isTemplate = hasPath := by
  cases hasPath <;> cases hasQuery <;> rfl

theorem hasQuery_select (hasPath hasQuery : Bool) :
    (select hasPath hasQuery).hasQuery = hasQuery := by
  cases hasPath <;> cases hasQuery <;> rfl

end CallShape

/-- A function of the client module. -/
structure Call where
  operationId : String
  tag : String
  functionName : String
  method : Method
  /-- The path, with arguments between the braces. -/
  urlTemplate : String
  pathParameters : List PathParameter
  /-- The model of the query parameters. -/
  queryModel : Option String
  body : Option TypeRef
  /-- The type of the answer; a call without one returns nothing. -/
  response : Option TypeRef
  shape : CallShape
  mode : Mode
  summary : Option String
  deprecated : Bool

end TypedClient.Plan
