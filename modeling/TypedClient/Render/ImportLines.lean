import TypedClient.Plan.Imports
import TypedClient.Render.TypeHint

/-!
# Import lines

The import lines of the generated modules: standard library first, names in alphabetical order.
-/

namespace TypedClient.Render

open Plan

/-- The names that are needed. -/
def needed (names : List (Bool × String)) : List String :=
  (names.filter Prod.fst).map Prod.snd

/-- The line that takes names from a module; there is none for no names. -/
def fromLine (module : String) (names : List String) : List String :=
  match names with
  | [] => []
  | names => ["from " ++ module ++ " import " ++ commaSeparated names]

/-- The lines of the models module for the standard library. -/
def modelsStandardLines (i : ModelImports) : List String :=
  fromLine "datetime" (needed [(i.date, "date"), (i.datetime, "datetime")]) ++
  fromLine "enum" (needed [(i.enums, "Enum")]) ++
  fromLine "typing" (needed [(i.any, "Any"), (i.list, "List"), (i.optional, "Optional")])

/-- The lines of the models module for the model library. -/
def modelsLibraryLines (i : ModelImports) : List String :=
  fromLine "pydantic" (needed [(true, "BaseModel"), (i.field, "Field"), (i.confloat, "confloat"),
    (i.conint, "conint"), (i.constr, "constr"), (i.validator, "validator")])

/-- The lines of the client module for the standard library. -/
def clientLines (i : ClientImports) : List String :=
  needed [(i.json, "import json")] ++
  fromLine "datetime" (needed [(i.date, "date"), (i.datetime, "datetime")]) ++
  fromLine "typing" (needed [(i.any, "Any"), (i.dict, "Dict"), (i.list, "List"),
    (true, "Optional")])

end TypedClient.Render
