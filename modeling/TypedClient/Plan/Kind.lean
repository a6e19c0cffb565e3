import TypedClient.Json.Basic
import TypedClient.OpenApi.Schema

/-!
# Kinds of fields

The kind of a field says which annotation it gets: a primitive, a primitive with constraints, a
list, another model or an enumeration.
-/

namespace TypedClient.Plan

open OpenApi (Exclusivity Schema)

/-- The primitive types of generated code. -/
inductive Primitive where
  | str
  | int
  | float
  | bool
  | date
  | dateTime
  | bytes
  | dict
  deriving DecidableEq

namespace Primitive

/-- The word for a primitive in a plan. -/
def name : Primitive → String
  | str => "str"
  | int => "int"
  | float => "float"
  | bool => "bool"
  | date => "date"
  | dateTime => "date_time"
  | bytes => "bytes"
  | dict => "dict"

/-- The annotation of a primitive. -/
def hint : Primitive → String
  | dateTime => "datetime"
  | p => p.name

/-- The primitive of a type token, for the tokens that have one. -/
def ofType? : String → Option Primitive
  | "string" => some str
  | "integer" => some int
  | "number" => some float
  | "boolean" => some bool
  | "object" => some dict
  | _ => none

/-- The primitive of a text in the given format. -/
def ofFormat : String → Primitive
  | "date" => date
  | "date-time" => dateTime
  | "byte" => bytes
  | _ => str

end Primitive

/-- How a bound compares with the values that it allows. -/
inductive Comparator where
  | gt
  | ge
  | lt
  | le
  deriving DecidableEq

/-- The word for a comparator, which is also the keyword of the constraint. -/
def Comparator.name : Comparator → String
  | gt => "gt"
  | ge => "ge"
  | lt => "lt"
  | le => "le"

/-- One end of a range of numbers. -/
structure Bound where
  value : JsonNumber
  comparator : Comparator

/-- The lengths that a text may have. -/
structure LengthRange where
  min : Option Nat
  max : Option Nat

/-- The values that a number may have. -/
structure NumberRange where
  lower : Option Bound
  upper : Option Bound
  multipleOf : Option JsonNumber

/-- The kind of a field. -/
inductive Kind where
  | primitive (type : Primitive)
  /-- A text of bounded length. -/
  | boundedText (range : LengthRange)
  /-- A whole number within a range. -/
  | boundedInteger (range : NumberRange)
  /-- A number within a range. -/
  | boundedNumber (range : NumberRange)
  | list (items : Kind)
  /-- A model.  The reference is a forward one if the model is emitted at the holder or later. -/
  | model (name : String) (forward : Bool)
  | enumeration (name : String)
  /-- Anything. -/
  | unknown
  deriving Inhabited

namespace Kind

/-- The word for a kind in a plan. -/
def word : Kind → String
  | primitive _ => "primitive"
  | boundedText _ => "constrained_string"
  | boundedInteger _ => "constrained_integer"
  | boundedNumber _ => "constrained_number"
  | list _ => "array"
  | model _ _ => "reference"
  | enumeration _ => "enum"
  | unknown => "unknown"

/-- The model that a kind refers to, also from inside lists. -/
def model? : Kind → Option String
  | model name _ => some name
  | list items => items.model?
  | _ => none

/-- Changes the reference to a model, also inside lists. -/
def mapModel (f : String → Bool → String × Bool) : Kind → Kind
  | model name forward => model (f name forward).1 (f name forward).2
  | list items => list (items.mapModel f)
  | kind => kind

/-- Whether the kind refers to a model that is emitted at the holder or later. -/
def isForward : Kind → Bool
  | model _ forward => forward
  | list items => items.isForward
  | _ => false

theorem model?_list (items : Kind) : (list items).model? = items.model? := rfl

theorem mapModel_list (f : String → Bool → String × Bool) (items : Kind) :
    (list items).mapModel f = list (items.mapModel f) := rfl

theorem isForward_list (items : Kind) : (list items).isForward = items.isForward := rfl

/-- Changing the reference changes the model that is referred to. -/
theorem model?_mapModel (f : String → Bool → String × Bool) (kind : Kind) :
    (kind.mapModel f).model? = kind.model?.map fun name => (f name kind.isForward).1 := by
  induction kind with
  | list items ih => simpa only [mapModel, model?, isForward] using ih
  | _ => rfl

end Kind

/-- The end of a range that a schema declares: a bound of its own comes first, and a plain bound
is inclusive only where the schema says that it is not exclusive. -/
def boundOf (value : Option JsonNumber) (exclusivity : Option Exclusivity)
    (strict inclusive : Comparator) : Option Bound :=
  match value, exclusivity with
  | _, some (.bound limit) => some ⟨limit, strict⟩
  | some value, some (.flag false) => some ⟨value, inclusive⟩
  | some value, _ => some ⟨value, strict⟩
  | none, _ => none

/-- The range of numbers that a schema allows. -/
def NumberRange.ofSchema (s : Schema) : NumberRange where
  lower := boundOf s.minimum s.exclusiveMinimum .gt .ge
  upper := boundOf s.maximum s.exclusiveMaximum .lt .le
  multipleOf := s.multipleOf

end TypedClient.Plan
