import TypedClient.OpenApi.Method
import TypedClient.OpenApi.Schema

/-!
# Documents

The parts of an OpenAPI document that a client is generated from.  Everything is kept in document
order.
-/

namespace TypedClient.OpenApi

/-- Where a parameter is sent. -/
inductive Location where
  | path
  | query
  | header
  | cookie
  deriving DecidableEq

/-- The word for a location. -/
def Location.name : Location → String
  | path => "path"
  | query => "query"
  | header => "header"
  | cookie => "cookie"

/-- All locations. -/
def Location.all : List Location := [path, query, header, cookie]

theorem Location.mem_all (l : Location) : l ∈ Location.all := by cases l <;> decide

/-- A parameter of an operation. -/
structure Parameter where
  name : String
  location : Location
  required : Bool := false
  schema : Option Schema := none
  description : Option String := none

/-- What a message of one media type holds. -/
structure MediaType where
  schema : Option Schema := none

/-- The media type that generated clients speak. -/
def jsonMediaType : String := "application/json"

/-- The body of a request. -/
structure RequestBody where
  required : Bool := false
  content : List (String × MediaType) := []
  description : Option String := none

/-- The JSON form of the body, if it has one. -/
def RequestBody.json? (b : RequestBody) : Option MediaType := b.content.lookup jsonMediaType

/-- A response. -/
structure Response where
  description : Option String := none
  content : List (String × MediaType) := []

/-- The JSON form of the response, if it has one. -/
def Response.json? (r : Response) : Option MediaType := r.content.lookup jsonMediaType

/-- A server of the service. -/
structure Server where
  url : String
  description : Option String := none

/-- Title and version of the service. -/
structure ApiInfo where
  title : String
  version : String
  description : Option String

/-- An operation with the parameters of its path merged in and all references followed. -/
structure Operation where
  id : Option String
  path : String
  method : Method
  tags : List String
  summary : Option String
  description : Option String
  deprecated : Bool
  parameters : List Parameter
  requestBody : Option RequestBody
  responses : List (String × Response)

namespace Operation

/-- Whether a status code stands for success. -/
def isSuccess (status : String) : Bool := status.toList.head? == some '2'

/-- The responses to successful requests, then all others. -/
def responsesByPrecedence (o : Operation) : List (String × Response) :=
  o.responses.filter (isSuccess ·.1) ++ o.responses.filter fun r => !isSuccess r.1

/-- Method and path, by which messages name the operation. -/
def endpoint (o : Operation) : String := o.method.token ++ " " ++ o.path

/-- The first tag, by which functions are grouped. -/
def tag (o : Operation) : String := o.tags.headD "default"

end Operation

/-- A document. -/
structure Document where
  version : String
  info : Option ApiInfo
  servers : List Server
  operations : List Operation
  schemas : List (String × Schema)

/-- The address of the first server. -/
def Document.serverUrl? (d : Document) : Option String := d.servers.head?.map (·.url)

end TypedClient.OpenApi
