import TypedClient.OpenApi.Reference

/-!
# Documents from JSON values

A document needs `paths` and `components.schemas`; everything else may be missing.  Parameters of a
path are handed to each of its operations, unless the operation declares one of the same name and
location.
-/

namespace TypedClient.OpenApi

/-- Reads a record and names its place if it cannot be read. -/
def readRecord {α : Type} (decode : Json → Decoded α) (location : String) (v : Json) :
    Except GenerationError α :=
  match decode v with
  | .ok record => .ok record
  | .error e => .error (.invalidDocument (.record location e))

/-- Follows references and reads the record at their end. -/
def readResolved {α : Type} (root : Json) (decode : Json → Decoded α) (location : String)
    (v : Json) : Except GenerationError α :=
  match resolve root v with
  | .ok target => readRecord decode location target
  | .error e => .error e

/-- The text under a key. -/
def textAt? (v : Json) (key : String) : Option String := (v.get? key).bind Json.asString?

/-- Reads a list of parameters; anything but a list is none. -/
def readParameters (root : Json) (v : Option Json) (location : String) :
    Except GenerationError (List Parameter) :=
  match v.bind Json.asArray? with
  | none => .ok []
  | some items => items.mapM (readResolved root Parameter.form.decode (location ++ " parameter"))

/-- The parameters of a path behind those of an operation: the operation's own ones replace those
of the same name and location. -/
def mergeParameters (shared own : List Parameter) : List Parameter :=
  (shared.filter fun p => !own.any fun q => q.name == p.name && q.location == p.location) ++ own

/-- Reads the responses of an operation. -/
def readResponses (root : Json) (v : Option Json) (location : String) :
    Except GenerationError (List (String × Response)) :=
  match v.bind Json.asObject? with
  | none => .ok []
  | some members =>
    members.mapM fun (status, r) => do
      let response ← readResolved root Response.form.decode (location ++ " response " ++ status) r
      return (status, response)

/-- Reads an operation. -/
def readOperation (root : Json) (path : String) (method : Method) (shared : List Parameter)
    (v : Json) : Except GenerationError Operation := do
  let location := method.token ++ " " ++ path
  let own ← readParameters root (v.get? "parameters") location
  let requestBody ←
    match v.get? "requestBody" with
    | none => pure none
    | some body => do
      let b ← readResolved root RequestBody.form.decode (location ++ " requestBody") body
      pure (some b)
  let responses ← readResponses root (v.get? "responses") location
  return {
    id := textAt? v "operationId"
    path := path
    method := method
    tags := (((v.get? "tags").bind Json.asArray?).getD []).filterMap Json.asString?
    summary := textAt? v "summary"
    description := textAt? v "description"
    deprecated := ((v.get? "deprecated").bind Json.asBool?).getD false
    parameters := mergeParameters shared own
    requestBody := requestBody
    responses := responses }

/-- The members of a path item whose keys name methods. -/
def methodMembers (members : List (String × Json)) : List (Method × Json) :=
  members.filterMap fun (key, v) => (Method.ofWord? key).map (·, v)

/-- Reads the operations of a path. -/
def readPathItem (root : Json) (path : String) (item : Json) :
    Except GenerationError (List Operation) := do
  match ← resolve root item with
  | .object members =>
    let shared ← readParameters root (Json.find? "parameters" members) path
    (methodMembers members).mapM fun (method, v) => readOperation root path method shared v
  | _ => .error (.invalidDocument (.pathItem path))

/-- Reads title and version, if there is a title. -/
def readInfo? (root : Json) : Option ApiInfo := do
  let info ← root.get? "info"
  let title ← textAt? info "title"
  return ⟨title, (textAt? info "version").getD "", textAt? info "description"⟩

/-- Reads a document. -/
def Document.ofJson (root : Json) : Except GenerationError Document := do
  let some paths := (root.get? "paths").bind Json.asObject?
    | throw (.missingRoot "paths")
  let some components := ((root.get? "components").bind (·.get? "schemas")).bind Json.asObject?
    | throw (.missingRoot "components.schemas")
  let servers ←
    match root.get? "servers" with
    | none => pure []
    | some v => readRecord (decodeList Server.form.decode) "servers" v
  let schemas ← components.mapM fun (name, v) => do
    let s ← readRecord Schema.decode ("components.schemas." ++ name) v
    return (name, s)
  let operations ← paths.mapM fun (path, item) => readPathItem root path item
  return {
    version := (textAt? root "openapi").getD "3.0.0"
    info := readInfo? root
    servers := servers
    operations := operations.flatten
    schemas := schemas }

end TypedClient.OpenApi
