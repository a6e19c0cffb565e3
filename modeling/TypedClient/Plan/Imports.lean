import TypedClient.Plan.Call
import TypedClient.Plan.Model

/-!
# Imports

The names that the generated modules have to import, collected from what they contain.
-/

namespace TypedClient.Plan

/-- What the models module imports. -/
structure ModelImports where
  date : Bool := false
  datetime : Bool := false
  enums : Bool := false
  optional : Bool := false
  list : Bool := false
  any : Bool := false
  field : Bool := false
  validator : Bool := false
  constr : Bool := false
  conint : Bool := false
  confloat : Bool := false
  /-- Whether forward references have to be resolved at the end of the module. -/
  forwardRefs : Bool := false

/-- What the client module imports. -/
structure ClientImports where
  /-- The models, sorted by name. -/
  models : List String := []
  list : Bool := false
  dict : Bool := false
  any : Bool := false
  date : Bool := false
  datetime : Bool := false
  /-- Whether some model is sent through its JSON form. -/
  json : Bool := false
  /-- Whether some call has a query. -/
  query : Bool := false

/-! ## Models module -/

/-- Whether the annotation of a field is wrapped in `Optional`. -/
def isWrapped (m : Model) (f : Field) : Bool := f.optional || f.nullable || m.origin.isComponent

/-- Whether a field is declared by a call of `Field`. -/
def usesFieldCall (m : Model) (f : Field) : Bool :=
  f.needsAlias || (isWrapped m f && !f.optional)

namespace Kind

/-- Whether some part of a kind satisfies the test. -/
def anyPart (test : Kind → Bool) : Kind → Bool
  | list items => test (list items) || items.anyPart test
  | kind => test kind

/-- Whether the kind is the given primitive. -/
def isPrimitive (p : Primitive) : Kind → Bool
  | primitive q => q == p
  | _ => false

/-- Whether anything is allowed. -/
def isUnknown : Kind → Bool
  | unknown => true
  | _ => false

/-- Whether the kind is a list whose items have an annotation. -/
def isTypedList : Kind → Bool
  | list items => !items.isUnknown
  | _ => false

/-- Whether the kind is a text of bounded length. -/
def isBoundedText : Kind → Bool
  | boundedText _ => true
  | _ => false

/-- Whether the kind is a whole number within a range. -/
def isBoundedInteger : Kind → Bool
  | boundedInteger _ => true
  | _ => false

/-- Whether the kind is a number within a range. -/
def isBoundedNumber : Kind → Bool
  | boundedNumber _ => true
  | _ => false

end Kind

/-- The kinds of all fields. -/
def fieldKinds (models : List Model) : List Kind := models.flatMap fun m => m.fields.map Field.kind

/-- Whether some part of some field's kind satisfies the test. -/
def anyKind (models : List Model) (test : Kind → Bool) : Bool :=
  (fieldKinds models).any fun kind => kind.anyPart test

/-- Whether some field satisfies the test. -/
def anyField (models : List Model) (test : Model → Field → Bool) : Bool :=
  models.any fun m => m.fields.any (test m)

/-- What the models module imports for its classes. -/
def ModelImports.collect (enums : List Enumeration) (models : List Model) : ModelImports where
  date := anyKind models (Kind.isPrimitive .date)
  datetime := anyKind models (Kind.isPrimitive .dateTime)
  enums := !enums.isEmpty
  optional := anyField models isWrapped
  list := anyKind models Kind.isTypedList
  any := (fieldKinds models).any Kind.isUnknown
  field := anyField models usesFieldCall
  validator := models.any fun m => !m.validators.isEmpty
  constr := anyKind models Kind.isBoundedText
  conint := anyKind models Kind.isBoundedInteger
  confloat := anyKind models Kind.isBoundedNumber
  forwardRefs := models.any Model.hasForward

/-! ## Client module -/

namespace TypeRef

/-- Whether the type is a list. -/
def isList : TypeRef → Bool
  | modelList _ => true
  | primitiveList _ => true
  | _ => false

/-- Whether the type is a map. -/
def isMap : TypeRef → Bool
  | map _ => true
  | _ => false

/-- Whether anything is allowed. -/
def isAny : TypeRef → Bool
  | any => true
  | _ => false

/-- The primitive of a type, of its items or of its values. -/
def primitive? : TypeRef → Option Primitive
  | primitive p => some p
  | primitiveList p => some p
  | map p => some p
  | _ => none

end TypeRef

namespace Call

/-- The types of the bodies. -/
def bodyTypes (c : Call) : List TypeRef := c.body.toList ++ c.response.toList

/-- The models that a call refers to. -/
def models (c : Call) : List String := c.queryModel.toList ++ c.bodyTypes.filterMap TypeRef.model?

/-- The primitives that a call refers to. -/
def primitives (c : Call) : List Primitive :=
  c.bodyTypes.filterMap TypeRef.primitive? ++ c.pathParameters.map PathParameter.type

/-- Whether the request body holds models. -/
def sendsModel (c : Call) : Bool := (c.body.bind TypeRef.model?).isSome

end Call

/-- Texts in order, each once. -/
def sortedNames (names : List String) : List String :=
  (names.eraseDups).mergeSort fun a b => a ≤ b

/-- Whether some body has a type that satisfies the test. -/
def anyBody (calls : List Call) (test : TypeRef → Bool) : Bool :=
  calls.any fun c => c.bodyTypes.any test

/-- Whether some call refers to the primitive. -/
def anyPrimitive (calls : List Call) (p : Primitive) : Bool :=
  calls.any fun c => c.primitives.contains p

/-- What the client module imports for its calls. -/
def ClientImports.collect (calls : List Call) : ClientImports where
  models := sortedNames (calls.flatMap Call.models)
  list := anyBody calls TypeRef.isList
  dict := anyBody calls TypeRef.isMap
  any := anyBody calls TypeRef.isAny
  date := anyPrimitive calls .date
  datetime := anyPrimitive calls .dateTime
  json := calls.any fun c => c.queryModel.isSome || c.sendsModel
  query := calls.any fun c => c.queryModel.isSome

end TypedClient.Plan
