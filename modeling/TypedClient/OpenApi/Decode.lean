import TypedClient.Json.Basic
import TypedClient.OpenApi.Document
import TypedClient.Text.Quoted

/-!
# Records from JSON values

Schemas, parameters, bodies, responses and servers are read from JSON values.  A record is written
as an object, whose unknown members are passed over, or as an array of its fields in order, whose
last fields may be left out.  Members are read in the order in which they stand, and the first one
that does not fit decides the error; a member that is missing is noticed at the end.
-/

namespace TypedClient.OpenApi

/-- What a reader expects to find. -/
inductive Expected where
  | text
  | truth
  | sequence
  | map
  | length
  | number
  | unit
  | location
  | record (name : String)

/-- The expectation in words. -/
def Expected.describe : Expected → String
  | text => "a string"
  | truth => "a boolean"
  | sequence => "a sequence"
  | map => "a map"
  | length => "u64"
  | number => "a JSON number"
  | unit => "unit"
  | location => "string or map"
  | record name => "struct " ++ name

/-- Why a value is no record. -/
inductive DecodeError where
  /-- A value of another kind. -/
  | wrongKind (found : Json) (expected : Expected)
  /-- A length below zero. -/
  | negativeLength (value : Int)
  /-- A member that has to be there. -/
  | missingField (name : String)
  /-- A location that no parameter can have. -/
  | unknownLocation (word : String)
  /-- An object that names no single location. -/
  | notSingleKey
  /-- A value that fits none of the forms of a keyword. -/
  | noForm (keyword : String)
  /-- An array that ends before a field that has to be there. -/
  | tooShort (count : Nat) (record : String) (size : Nat)
  /-- An array with more items than the record has fields. -/
  | tooLong (count : Nat)

/-- The kind of a value in words, with the value itself where it is short. -/
def describeFound : Json → String
  | .null => "null"
  | .bool true => "boolean `true`"
  | .bool false => "boolean `false`"
  | .number (.int n) => "integer `" ++ toString n ++ "`"
  | .number (.double x) => "floating point `" ++ String.ofList x.text ++ "`"
  | .string s => "string " ++ Text.visible s
  | .array _ => "sequence"
  | .object _ => "map"

/-- The message of a decoding error. -/
def DecodeError.message : DecodeError → String
  | wrongKind found expected =>
    "invalid type: " ++ describeFound found ++ ", expected " ++ expected.describe
  | negativeLength value => "invalid value: integer `" ++ toString value ++ "`, expected u64"
  | missingField name => "missing field `" ++ name ++ "`"
  | unknownLocation word =>
    "unknown variant `" ++ word ++ "`, expected one of `path`, `query`, `header`, `cookie`"
  | notSingleKey => "invalid value: map, expected map with a single key"
  | noForm keyword => "data did not match any variant of untagged enum " ++ keyword
  | tooShort count record size =>
    "invalid length " ++ toString count ++ ", expected struct " ++ record ++ " with " ++
      toString size ++ " elements"
  | tooLong count =>
    "invalid length " ++ toString count ++ ", expected fewer elements in array"

/-- The result of reading a value. -/
abbrev Decoded := Except DecodeError

/-! ## Plain values -/

/-- Reads a text. -/
def decodeText : Json → Decoded String
  | .string s => .ok s
  | v => .error (.wrongKind v .text)

/-- Reads a truth value. -/
def decodeBool : Json → Decoded Bool
  | .bool b => .ok b
  | v => .error (.wrongKind v .truth)

/-- Reads a length. -/
def decodeLength : Json → Decoded Nat
  | .number (.int n) => if 0 ≤ n then .ok n.toNat else .error (.negativeLength n)
  | v => .error (.wrongKind v .length)

/-- Reads a number. -/
def decodeNumber : Json → Decoded JsonNumber
  | .number n => .ok n
  | v => .error (.wrongKind v .number)

/-- Reads a value that may be `null`. -/
def decodeOption {α : Type} (decode : Json → Decoded α) : Json → Decoded (Option α)
  | .null => .ok none
  | v => (decode v).map some

/-- Reads a list. -/
def decodeList {α : Type} (decode : Json → Decoded α) : Json → Decoded (List α)
  | .array xs => xs.mapM decode
  | v => .error (.wrongKind v .sequence)

/-- Reads a map, in document order. -/
def decodeMap {α : Type} (decode : Json → Decoded α) : Json → Decoded (List (String × α))
  | .object ms => ms.mapM fun (k, v) => (decode v).map (k, ·)
  | v => .error (.wrongKind v .map)

/-! ## Records -/

/-- How a record is read: the names of its fields in order, how a field changes the record, and
which fields have to be there. -/
structure RecordForm (α : Type) where
  name : String
  fields : List String
  required : List String
  empty : α
  set : String → Json → α → Decoded α

/-- Reads members one after another; a member with no field of its name is passed over. -/
def RecordForm.readMembers {α : Type} (form : RecordForm α) :
    List (String × Json) → α → Decoded α
  | [], record => .ok record
  | (key, v) :: rest, record =>
    if form.fields.contains key then
      match form.set key v record with
      | .ok next => form.readMembers rest next
      | .error e => .error e
    else form.readMembers rest record

/-- Reads fields by position.  `count` is the length of the whole array. -/
def RecordForm.readItems {α : Type} (form : RecordForm α) (count : Nat) :
    List String → List Json → α → Decoded α
  | [], [], record => .ok record
  | [], _ :: _, _ => .error (.tooLong count)
  | field :: _, [], record =>
    if form.required.contains field then .error (.tooShort count form.name form.fields.length)
    else .ok record
  | field :: fields, v :: rest, record =>
    match form.set field v record with
    | .ok next => form.readItems count fields rest next
    | .error e => .error e

/-- Reads a record from an object or an array. -/
def RecordForm.decode {α : Type} (form : RecordForm α) : Json → Decoded α
  | .object ms =>
    match form.readMembers ms form.empty with
    | .error e => .error e
    | .ok record =>
      match form.required.find? fun field => (ms.lookup field).isNone with
      | some field => .error (.missingField field)
      | none => .ok record
  | .array xs => form.readItems xs.length form.fields xs form.empty
  | v => .error (.wrongKind v (.record form.name))

/-! ## Schemas -/

/-- The keywords of a schema, in order. -/
def Schema.fields : List String := [
  "$ref", "type", "format", "description", "properties", "required", "items", "enum", "nullable",
  "readOnly", "writeOnly", "minLength", "maxLength", "minimum", "maximum", "exclusiveMinimum",
  "exclusiveMaximum", "multipleOf", "additionalProperties"]

/-- Reads the `type` keyword. -/
def decodeTypeDecl : Json → Decoded TypeDecl
  | .string s => .ok (.one s)
  | .array xs =>
    match xs.mapM Json.asString? with
    | some tokens => .ok (.many tokens)
    | none => .error (.noForm "TypeDecl")
  | _ => .error (.noForm "TypeDecl")

/-- Reads an exclusive bound. -/
def decodeExclusivity : Json → Decoded Exclusivity
  | .bool b => .ok (.flag b)
  | .number n => .ok (.bound n)
  | _ => .error (.noForm "Exclusivity")

/-- Sets a keyword whose value holds no schema. -/
def Schema.setPlain (key : String) (v : Json) (s : Schema) : Decoded Schema :=
  match key with
  | "$ref" => (decodeOption decodeText v).map fun x => { s with reference := x }
  | "type" => (decodeOption decodeTypeDecl v).map fun x => { s with type := x }
  | "format" => (decodeOption decodeText v).map fun x => { s with format := x }
  | "description" => (decodeOption decodeText v).map fun x => { s with description := x }
  | "required" => (decodeList decodeText v).map fun x => { s with required := x }
  | "enum" => (decodeOption (decodeList .ok) v).map fun x => { s with enumeration := x }
  | "nullable" => (decodeBool v).map fun x => { s with nullable := x }
  | "readOnly" => (decodeBool v).map fun x => { s with readOnly := x }
  | "writeOnly" => (decodeBool v).map fun x => { s with writeOnly := x }
  | "minLength" => (decodeOption decodeLength v).map fun x => { s with minLength := x }
  | "maxLength" => (decodeOption decodeLength v).map fun x => { s with maxLength := x }
  | "minimum" => (decodeOption decodeNumber v).map fun x => { s with minimum := x }
  | "maximum" => (decodeOption decodeNumber v).map fun x => { s with maximum := x }
  | "exclusiveMinimum" =>
    (decodeOption decodeExclusivity v).map fun x => { s with exclusiveMinimum := x }
  | "exclusiveMaximum" =>
    (decodeOption decodeExclusivity v).map fun x => { s with exclusiveMaximum := x }
  | "multipleOf" => (decodeOption decodeNumber v).map fun x => { s with multipleOf := x }
  | _ => .ok s

mutual

/-- Reads a schema. -/
def Schema.decode : Json → Decoded Schema
  | .object ms => Schema.decodeMembers ms {}
  | .array xs => Schema.decodeItems xs.length Schema.fields xs {}
  | .null => .error (.wrongKind .null (.record "Schema"))
  | .bool b => .error (.wrongKind (.bool b) (.record "Schema"))
  | .number n => .error (.wrongKind (.number n) (.record "Schema"))
  | .string s => .error (.wrongKind (.string s) (.record "Schema"))

/-- Reads keywords one after another. -/
def Schema.decodeMembers : List (String × Json) → Schema → Decoded Schema
  | [], s => .ok s
  | (key, v) :: rest, s =>
    match Schema.decodeField key v s with
    | .ok next => Schema.decodeMembers rest next
    | .error e => .error e

/-- Reads keywords by position. -/
def Schema.decodeItems (count : Nat) : List String → List Json → Schema → Decoded Schema
  | _, [], s => .ok s
  | [], _ :: _, _ => .error (.tooLong count)
  | key :: keys, v :: rest, s =>
    match Schema.decodeField key v s with
    | .ok next => Schema.decodeItems count keys rest next
    | .error e => .error e

/-- Sets one keyword. -/
def Schema.decodeField (key : String) : Json → Schema → Decoded Schema
  | .null, s =>
    if key == "properties" then .ok { s with properties := none }
    else if key == "items" then .ok { s with items := none }
    else if key == "additionalProperties" then .ok { s with additional := none }
    else s.setPlain key .null
  | .object ms, s =>
    if key == "properties" then
      (Schema.decodeProperties ms).map fun x => { s with properties := some x }
    else if key == "items" then
      (Schema.decodeMembers ms {}).map fun x => { s with items := some x }
    else if key == "additionalProperties" then
      match Schema.decodeMembers ms {} with
      | .ok x => .ok { s with additional := some (.schema x) }
      | .error _ => .error (.noForm "AdditionalProperties")
    else s.setPlain key (.object ms)
  | .array xs, s =>
    if key == "properties" then .error (.wrongKind (.array xs) .map)
    else if key == "items" then
      (Schema.decodeItems xs.length Schema.fields xs {}).map fun x => { s with items := some x }
    else if key == "additionalProperties" then
      match Schema.decodeItems xs.length Schema.fields xs {} with
      | .ok x => .ok { s with additional := some (.schema x) }
      | .error _ => .error (.noForm "AdditionalProperties")
    else s.setPlain key (.array xs)
  | .bool b, s =>
    if key == "properties" then .error (.wrongKind (.bool b) .map)
    else if key == "items" then .error (.wrongKind (.bool b) (.record "Schema"))
    else if key == "additionalProperties" then .ok { s with additional := some (.flag b) }
    else s.setPlain key (.bool b)
  | .number n, s =>
    if key == "properties" then .error (.wrongKind (.number n) .map)
    else if key == "items" then .error (.wrongKind (.number n) (.record "Schema"))
    else if key == "additionalProperties" then .error (.noForm "AdditionalProperties")
    else s.setPlain key (.number n)
  | .string t, s =>
    if key == "properties" then .error (.wrongKind (.string t) .map)
    else if key == "items" then .error (.wrongKind (.string t) (.record "Schema"))
    else if key == "additionalProperties" then .error (.noForm "AdditionalProperties")
    else s.setPlain key (.string t)

/-- Reads the properties of an object. -/
def Schema.decodeProperties : List (String × Json) → Decoded (List (String × Schema))
  | [] => .ok []
  | (key, v) :: rest =>
    match Schema.decode v with
    | .error e => .error e
    | .ok s =>
      match Schema.decodeProperties rest with
      | .error e => .error e
      | .ok others => .ok ((key, s) :: others)

end

/-! ## Messages and parameters -/

/-- Reads the location of a parameter: a word, or an object with the word as its only key. -/
def decodeLocation : Json → Decoded Location
  | .string word => ofWord word
  | .object [(word, v)] =>
    match ofWord word with
    | .error e => .error e
    | .ok location =>
      match v with
      | .null => .ok location
      | v => .error (.wrongKind v .unit)
  | .object _ => .error .notSingleKey
  | v => .error (.wrongKind v .location)
where
  /-- The location of a word. -/
  ofWord (word : String) : Decoded Location :=
    match Location.all.find? fun l => l.name == word with
    | some location => .ok location
    | none => .error (.unknownLocation word)

/-- How a parameter is read. -/
def Parameter.form : RecordForm Parameter where
  name := "Parameter"
  fields := ["name", "in", "required", "schema", "description"]
  required := ["name", "in"]
  empty := { name := "", location := .query }
  set key v p :=
    match key with
    | "name" => (decodeText v).map fun x => { p with name := x }
    | "in" => (decodeLocation v).map fun x => { p with location := x }
    | "required" => (decodeBool v).map fun x => { p with required := x }
    | "schema" => (decodeOption Schema.decode v).map fun x => { p with schema := x }
    | "description" => (decodeOption decodeText v).map fun x => { p with description := x }
    | _ => .ok p

/-- How a media type is read. -/
def MediaType.form : RecordForm MediaType where
  name := "MediaType"
  fields := ["schema"]
  required := []
  empty := {}
  set key v m :=
    match key with
    | "schema" => (decodeOption Schema.decode v).map fun x => { m with schema := x }
    | _ => .ok m

/-- How a request body is read. -/
def RequestBody.form : RecordForm RequestBody where
  name := "RequestBody"
  fields := ["required", "content", "description"]
  required := []
  empty := {}
  set key v b :=
    match key with
    | "required" => (decodeBool v).map fun x => { b with required := x }
    | "content" => (decodeMap MediaType.form.decode v).map fun x => { b with content := x }
    | "description" => (decodeOption decodeText v).map fun x => { b with description := x }
    | _ => .ok b

/-- How a response is read. -/
def Response.form : RecordForm Response where
  name := "Response"
  fields := ["description", "content"]
  required := []
  empty := {}
  set key v r :=
    match key with
    | "description" => (decodeOption decodeText v).map fun x => { r with description := x }
    | "content" => (decodeMap MediaType.form.decode v).map fun x => { r with content := x }
    | _ => .ok r

/-- How a server is read. -/
def Server.form : RecordForm Server where
  name := "Server"
  fields := ["url", "description"]
  required := ["url"]
  empty := { url := "" }
  set key v s :=
    match key with
    | "url" => (decodeText v).map fun x => { s with url := x }
    | "description" => (decodeOption decodeText v).map fun x => { s with description := x }
    | _ => .ok s

end TypedClient.OpenApi
