import TypedClient.Plan.Endpoint
import TypedClient.Plan.Imports
import TypedClient.Plan.Order
import TypedClient.Plan.Variants

/-!
# Plans

A plan is everything that generated modules are written from: enumerations, models in order, calls
and imports.  `Plan.build` makes it from a document.
-/

namespace TypedClient

open Client (Mode Settings)
open OpenApi (Document)
open Plan

/-- A plan of the modules to generate. -/
structure Plan where
  baseUrl : String
  mode : Mode
  enums : List Enumeration
  models : List Model
  calls : List Call
  modelImports : ModelImports
  clientImports : ClientImports

namespace Plan

/-- The model of a name. -/
def model? (p : Plan) (name : String) : Option Model := p.models.find? fun m => m.name == name

/-- The enumeration of a name. -/
def enum? (p : Plan) (name : String) : Option Enumeration :=
  p.enums.find? fun e => e.name == name

/-- The call of a function. -/
def call? (p : Plan) (function : String) : Option Call :=
  p.calls.find? fun c => c.functionName == function

/-- The models and calls of a document, before models are brought into order. -/
def draft (d : Document) (s : Settings) : Claiming (List Model × List Call) := do
  let components : Components := d.schemas
  let models ← components.models
  let calls ← components.calls s.mode s.filter d.operations
  let all := models ++ calls.filterMap Prod.snd
  let split ← splitModels all
  return (split, calls.map fun c => redirectCall (splitNames all) c.1)

/-- The plan for a document. -/
def build (d : Document) (s : Settings) : Except GenerationError Plan :=
  match s.check with
  | .error problem => .error (.invalidSettings problem)
  | .ok () =>
    match (draft d s).run {} with
    | .error e => .error e
    | .ok ((drafted, calls), names) =>
      let models := orderModels drafted
      .ok {
        baseUrl := Client.selectBaseUrl s.baseUrl d.serverUrl?
        mode := s.mode
        enums := names.enums
        models := models
        calls := calls
        modelImports := .collect names.enums models
        clientImports := .collect calls }

end Plan

end TypedClient
