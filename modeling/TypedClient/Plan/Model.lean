import TypedClient.Plan.Kind

/-!
# Models and enumerations

The classes of the models module.  A model comes from an object component or holds the query
parameters of one operation.
-/

namespace TypedClient.Plan

/-- In which direction a field is sent. -/
inductive Visibility where
  | standard
  /-- Only in responses. -/
  | readOnly
  /-- Only in requests. -/
  | writeOnly
  deriving DecidableEq

/-- The word for a visibility. -/
def Visibility.name : Visibility → String
  | standard => "standard"
  | readOnly => "read_only"
  | writeOnly => "write_only"

/-- The visibility of a field with the two flags.  Flags that contradict each other say nothing. -/
def Visibility.ofFlags (readOnly writeOnly : Bool) : Visibility :=
  match readOnly, writeOnly with
  | true, false => .readOnly
  | false, true => .writeOnly
  | _, _ => .standard

/-- A field of a model. -/
structure Field where
  /-- The identifier in generated code. -/
  name : String
  /-- The name in messages. -/
  wireName : String
  kind : Kind
  optional : Bool
  nullable : Bool
  visibility : Visibility

namespace Field

/-- Whether the identifier differs from the name in messages. -/
def needsAlias (f : Field) : Bool := f.name != f.wireName

/-- Whether the field has to be there and may not be null. -/
def rejectsNull (f : Field) : Bool := !f.optional && !f.nullable

end Field

/-- A check that a field is not null. -/
structure Validator where
  /-- The identifier of the field. -/
  field : String

/-- The name of the function that makes the check. -/
def Validator.functionName (v : Validator) : String := "optional_" ++ v.field

/-- One of the two halves of a model whose fields are not all sent in both directions. -/
inductive Variant where
  | request
  | response
  deriving DecidableEq

namespace Variant

/-- The word for a variant. -/
def name : Variant → String
  | request => "request"
  | response => "response"

/-- What the name of a variant ends in. -/
def suffix : Variant → String
  | request => "Request"
  | response => "Response"

/-- Whether a variant has the fields of a visibility. -/
def includes : Variant → Visibility → Bool
  | _, .standard => true
  | request, .writeOnly => true
  | response, .readOnly => true
  | _, _ => false

end Variant

/-- Where a model comes from. -/
inductive Origin where
  | component (schema : String)
  | queryParameters (operationId : String)
  deriving DecidableEq

/-- Whether the model comes from a component. -/
def Origin.isComponent : Origin → Bool
  | component _ => true
  | queryParameters _ => false

/-- A class of the models module. -/
structure Model where
  name : String
  fields : List Field
  validators : List Validator
  /-- The position among the emitted models. -/
  position : Nat := 0
  variant : Option Variant := none
  origin : Origin

namespace Model

/-- Whether some field is not sent in both directions. -/
def isDirected (m : Model) : Bool := m.fields.any fun f => f.visibility != .standard

/-- The models that the fields refer to, in field order. -/
def references (m : Model) : List String := m.fields.filterMap fun f => f.kind.model?

/-- Changes every reference to a model. -/
def mapReferences (f : String → Bool → String × Bool) (m : Model) : Model :=
  { m with fields := m.fields.map fun field => { field with kind := field.kind.mapModel f } }

/-- Whether some field refers to a model that is emitted at this one or later. -/
def hasForward (m : Model) : Bool := m.fields.any fun f => f.kind.isForward

/-- Whether some identifier differs from the name in messages. -/
def hasAliases (m : Model) : Bool := m.fields.any Field.needsAlias

theorem name_mapReferences (f : String → Bool → String × Bool) (m : Model) :
    (m.mapReferences f).name = m.name := rfl

end Model

/-- A member of an enumeration. -/
structure Member where
  identifier : String
  value : Json

/-- An enumeration class of the models module. -/
structure Enumeration where
  name : String
  members : List Member

/-- The values of an enumeration in order. -/
def Enumeration.values (e : Enumeration) : List Json := e.members.map Member.value

end TypedClient.Plan
