import TypedClient.Plan.Call
import TypedClient.Plan.Component

/-!
# Request and response variants

A model with fields that are sent in one direction only is replaced by two variants, each with the
fields of its direction.  References to it are then references to the variant that fits: in request
variants and request bodies that for requests, everywhere else that for responses.
-/

namespace TypedClient.Plan

/-- The name of a variant of a model. -/
def Variant.nameOf (v : Variant) (model : String) : String := model ++ v.suffix

/-- A variant of a model: its fields of that direction, with their checks. -/
def Model.derive (m : Model) (v : Variant) : Model :=
  let fields := m.fields.filter fun f => v.includes f.visibility
  { m with
    name := v.nameOf m.name
    fields := fields
    validators := m.validators.filter fun check => fields.any fun f => f.name == check.field
    variant := some v }

/-- What the name of a variant is claimed for. -/
def Variant.originOf (v : Variant) (model : String) : String := v.name ++ " variant of " ++ model

/-- Derives a variant and claims its name. -/
def deriveVariant (m : Model) (v : Variant) : Claiming Model := do
  let derived := m.derive v
  claimType derived.name (v.originOf m.name)
  return derived

/-- What becomes of a model: its two variants, or the model itself. -/
def expandModel (m : Model) : Claiming (List Model) :=
  if m.isDirected then do
    let request ← deriveVariant m .request
    let response ← deriveVariant m .response
    return [request, response]
  else return [m]

/-- The names of the models that are replaced by variants. -/
def splitNames (models : List Model) : List String :=
  (models.filter Model.isDirected).map Model.name

/-- The name that stands for a model where the variant `v` is used. -/
def variantName (split : List String) (v : Variant) (name : String) : String :=
  if split.contains name then v.nameOf name else name

/-- A model that is not replaced keeps its name. -/
theorem variantName_of_not_mem {split : List String} {name : String} (h : name ∉ split)
    (v : Variant) : variantName split v name = name := by
  simp [variantName, h]

/-- A model that is replaced is named by its variant. -/
theorem variantName_of_mem {split : List String} {name : String} (h : name ∈ split)
    (v : Variant) : variantName split v name = v.nameOf name := by
  simp [variantName, h]

/-- The variant that a model refers to. -/
def Model.direction (m : Model) : Variant := m.variant.getD .response

/-- Redirects the references of a model to the variants that fit. -/
def redirectModel (split : List String) (m : Model) : Model :=
  m.mapReferences fun name forward => (variantName split m.direction name, forward)

/-- Replaces models by their variants. -/
def splitModels (models : List Model) : Claiming (List Model) := do
  let expanded ← models.mapM expandModel
  return expanded.flatten.map (redirectModel (splitNames models))

/-- Redirects the bodies of a call to the variants that fit. -/
def redirectCall (split : List String) (c : Call) : Call :=
  { c with
    body := c.body.map fun type => type.mapModel (variantName split .request)
    response := c.response.map fun type => type.mapModel (variantName split .response) }

end TypedClient.Plan
