import TypedClient.Json.Basic

/-!
# Schemas

A schema describes the values of a property, a parameter or a body.  Only the keywords that decide
the generated types are kept.
-/

namespace TypedClient.OpenApi

/-- The `type` keyword: one token, or a list of alternatives. -/
inductive TypeDecl where
  | one (token : String)
  | many (tokens : List String)

/-- An exclusive bound: a flag that qualifies the inclusive bound, or a bound of its own. -/
inductive Exclusivity where
  | flag (value : Bool)
  | bound (limit : JsonNumber)

/-- The `additionalProperties` keyword: a flag, or the schema of the further values. -/
inductive Additional (α : Type) where
  | flag (value : Bool)
  | schema (value : α)

/-- A schema. -/
structure Schema where
  reference : Option String := none
  type : Option TypeDecl := none
  format : Option String := none
  description : Option String := none
  properties : Option (List (String × Schema)) := none
  required : List String := []
  items : Option Schema := none
  enumeration : Option (List Json) := none
  nullable : Bool := false
  readOnly : Bool := false
  writeOnly : Bool := false
  minLength : Option Nat := none
  maxLength : Option Nat := none
  minimum : Option JsonNumber := none
  maximum : Option JsonNumber := none
  exclusiveMinimum : Option Exclusivity := none
  exclusiveMaximum : Option Exclusivity := none
  multipleOf : Option JsonNumber := none
  additional : Option (Additional Schema) := none

namespace TypeDecl

/-- The first token that is not `null`. -/
def primary? : TypeDecl → Option String
  | one token => if token == "null" then none else some token
  | many tokens => tokens.find? (· != "null")

/-- Whether `null` is among the tokens. -/
def includesNull : TypeDecl → Bool
  | one token => token == "null"
  | many tokens => tokens.contains "null"

end TypeDecl

/-- The limit, if the bound is one of its own. -/
def Exclusivity.limit? : Exclusivity → Option JsonNumber
  | flag _ => none
  | bound limit => some limit

/-- The schema of the further values, if there is one. -/
def Additional.schema? {α : Type} : Additional α → Option α
  | flag _ => none
  | schema value => some value

namespace Schema

/-- The first type token that is not `null`. -/
def primaryType? (s : Schema) : Option String := s.type.bind TypeDecl.primary?

/-- Whether `null` is a value of the schema. -/
def isNullable (s : Schema) : Bool :=
  s.nullable || (s.type.map TypeDecl.includesNull).getD false

/-- Whether a number has to respect more than its type. -/
def hasNumericConstraints (s : Schema) : Bool :=
  s.minimum.isSome || s.maximum.isSome || s.multipleOf.isSome ||
  (s.exclusiveMinimum.bind Exclusivity.limit?).isSome ||
  (s.exclusiveMaximum.bind Exclusivity.limit?).isSome

/-- Whether the length of a text is bounded. -/
def hasLengthConstraints (s : Schema) : Bool := s.minLength.isSome || s.maxLength.isSome

/-- Whether the schema describes an object with properties of its own, or with no other shape. -/
def isObjectModel (s : Schema) : Bool :=
  match s.primaryType? with
  | some "object" => s.properties.isSome || s.additional.isNone
  | none => s.properties.isSome && s.reference.isNone
  | some _ => false

/-- Whether the schema lists the texts that it allows. -/
def isStringEnum (s : Schema) : Bool :=
  s.primaryType? == some "string" && !(s.enumeration.getD []).isEmpty &&
  !s.hasLengthConstraints && s.format.isNone

end Schema

end TypedClient.OpenApi
