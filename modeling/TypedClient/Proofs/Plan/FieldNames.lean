import TypedClient.Proofs.Lexical.ReservedNames
import TypedClient.Proofs.Plan.FunctionNames
import TypedClient.Proofs.Plan.Placement

/-!
# Names of fields

The fields of an object and those of a container get their names in the same way: each property or
parameter has a name that a model allows, and these are made distinct (`NamedInOrder`). Nothing that
happens to a model afterwards gives a field another name, so all models of a plan have field names
that they can have together (`areFieldNames_of_build`).
-/

namespace TypedClient.Plan

open Client (Mode Settings)
open Lexical (AreFieldNames IsFieldName)
open OpenApi (Document Operation Parameter Schema)
open Claiming

theorem isFieldName_fieldName (wireName : String) : IsFieldName (Naming.fieldName wireName) :=
  Lexical.isFieldName_sanitizeField wireName

/-- The fields are named after what they are called in messages, from the first to the last. -/
def NamedInOrder (fields : List Field) : Prop :=
  fields.map Field.name = Lexical.uniqueAll [] (fields.map fun f => Naming.fieldName f.wireName)

theorem NamedInOrder.areFieldNames {fields : List Field} (h : NamedInOrder fields) :
    AreFieldNames (fields.map Field.name) := by
  rw [h]
  exact Lexical.areFieldNames_uniqueAll
    (List.forall_mem_map.2 fun f _ => isFieldName_fieldName f.wireName)

/-! ## Models of components -/

section Models

variable {components : Components}

theorem map_wireName_fieldsOf (required : List String) (properties : List (String × Property)) :
    (fieldsOf required properties).map Field.wireName = properties.map Prod.fst :=
  map_eq_map_of_forall₂ (forall₂_zipWith (R := fun p f => f.wireName = p.1) (fun _ _ => rfl)
    (Lexical.length_uniqueAll_map _ _ _)) fun _ _ hf => hf

theorem namedInOrder_fieldsOf (required : List String) (properties : List (String × Property)) :
    NamedInOrder (fieldsOf required properties) := by
  have hwire := congrArg (List.map Naming.fieldName) (map_wireName_fieldsOf required properties)
  rw [List.map_map, List.map_map] at hwire
  rw [NamedInOrder, map_name_fieldsOf]
  exact congrArg _ hwire.symm

theorem namedInOrder_of_yields_model {name component : String} {s : Schema} {m : Model}
    (h : Yields (components.model name component s) m) : NamedInOrder m.fields := by
  obtain ⟨properties, -, h⟩ := exists_yields_of_bind h
  rw [← eq_of_yields_pure h]
  exact namedInOrder_fieldsOf s.required properties

theorem namedInOrder_of_yields_declare {component : String} {s : Schema} {m : Model}
    (h : Yields (components.declare component s) (some m)) : NamedInOrder m.fields := by
  unfold Components.declare at h
  split at h
  · obtain ⟨-, -, h⟩ := exists_yields_of_bind h
    obtain ⟨model, hmodel, h⟩ := exists_yields_of_bind h
    rw [← Option.some.inj (eq_of_yields_pure h)]
    exact namedInOrder_of_yields_model hmodel
  · obtain ⟨-, -, h⟩ := exists_yields_of_bind h
    obtain ⟨-, -, h⟩ := exists_yields_of_bind h
    cases eq_of_yields_pure h
  · cases eq_of_yields_pure h

theorem namedInOrder_of_yields_models {base : List Model} (h : Yields components.models base) :
    ∀ m ∈ base, NamedInOrder m.fields := by
  obtain ⟨declared, hdeclared, h⟩ := exists_yields_of_bind h
  rw [← eq_of_yields_pure h]
  intro m hm
  obtain ⟨_, hmem, rfl⟩ := List.mem_filterMap.1 hm
  obtain ⟨_, -, hyields⟩ := exists_of_mem_right (forall₂_of_yields_mapM hdeclared) hmem
  exact namedInOrder_of_yields_declare hyields

/-! ## Containers -/

theorem name_of_yields_queryField {queryName : String} {p : Parameter} {f : Field}
    (h : Yields (components.queryField queryName p) f) :
    f.name = Naming.fieldName f.wireName := by
  unfold Components.queryField at h
  split at h
  · obtain ⟨property, -, h⟩ := exists_yields_of_bind h
    rw [← eq_of_yields_pure h]
  · obtain ⟨property, -, h⟩ := exists_yields_of_bind h
    rw [← eq_of_yields_pure h]

theorem map_wireName_distinctFields (fields : List Field) :
    (distinctFields fields).map Field.wireName = fields.map Field.wireName :=
  map_eq_map_of_forall₂ (forall₂_zipWith (R := fun f f' => f'.wireName = f.wireName)
    (fun _ _ => rfl) (Lexical.length_uniqueAll_map _ _ _)) fun _ _ hf => hf

theorem namedInOrder_distinctFields {fields : List Field}
    (h : ∀ f ∈ fields, f.name = Naming.fieldName f.wireName) :
    NamedInOrder (distinctFields fields) := by
  have hwire := congrArg (List.map Naming.fieldName) (map_wireName_distinctFields fields)
  rw [List.map_map, List.map_map] at hwire
  rw [NamedInOrder, map_name_distinctFields, List.map_congr_left h]
  exact congrArg _ hwire.symm

theorem namedInOrder_of_yields_queryModel? {name id : String} {fields : List Field} {m : Model}
    (hfields : ∀ f ∈ fields, f.name = Naming.fieldName f.wireName)
    (h : Yields (queryModel? name id fields) (some m)) : NamedInOrder m.fields := by
  unfold queryModel? at h
  split at h
  · cases eq_of_yields_pure h
  · obtain ⟨-, -, h⟩ := exists_yields_of_bind h
    rw [← Option.some.inj (eq_of_yields_pure h)]
    exact namedInOrder_distinctFields hfields

theorem namedInOrder_of_yields_call {mode : Mode} {o : Operation} {r : Call × Option Model}
    (h : Yields (components.call mode o) r) : ∀ m ∈ r.2, NamedInOrder m.fields := by
  obtain ⟨-, -, h⟩ := exists_yields_of_bind h
  obtain ⟨declared, hdeclared, h⟩ := exists_yields_of_bind h
  obtain ⟨query, hquery, h⟩ := exists_yields_of_bind h
  obtain ⟨body, -, h⟩ := exists_yields_of_bind h
  obtain ⟨response, -, h⟩ := exists_yields_of_bind h
  rw [← eq_of_yields_pure h]
  intro m hm
  have hm : query = some m := hm
  rw [hm] at hquery
  refine namedInOrder_of_yields_queryModel? (fun f hf => ?_) hquery
  obtain ⟨p, -, hfield⟩ :=
    exists_of_mem_right (forall₂_queryFields (forall₂_of_yields_mapM hdeclared)) hf
  exact name_of_yields_queryField hfield

end Models

/-! ## Built plans -/

theorem Drafted.namedInOrder {d : Document} {s : Settings} {base : List Model}
    {made : List (Call × Option Model)} {n : Names} (h : Drafted d s base made n) {m : Model}
    (hm : m ∈ allModels base made) : NamedInOrder m.fields := by
  rcases mem_allModels.1 hm with hm | ⟨r, hr, hquery⟩
  · exact namedInOrder_of_yields_models h.modelsYielded m hm
  · obtain ⟨o, -, hyields⟩ := exists_of_mem_right (forall₂_of_yields_mapM h.callsYielded) hr
    exact namedInOrder_of_yields_call hyields m hquery

theorem Drafted.areFieldNames {d : Document} {s : Settings} {base : List Model}
    {made : List (Call × Option Model)} {n : Names} (h : Drafted d s base made n) {m : Model}
    (hm : m ∈ allModels base made) : AreFieldNames (m.fields.map Field.name) :=
  (h.namedInOrder hm).areFieldNames

theorem Model.Placed.map_name {split : List String} {variant m : Model}
    (h : Model.Placed split variant m) : m.fields.map Field.name = variant.fields.map Field.name :=
  map_eq_map_of_forall₂ h.fields fun _ _ hf => hf.name_eq

/-- Whatever properties and parameters are called, the fields of every model have distinct names,
and each of them is a valid identifier that begins with no underscore and is no attribute of the
base class and no symbol of the models module. -/
theorem areFieldNames_of_build (d : Document) (s : Settings) (p : TypedClient.Plan)
    (h : build d s = .ok p) : ∀ m ∈ p.models,
      (m.fields.map Field.name).Nodup ∧ ∀ f ∈ m.fields,
        Lexical.isValidIdentifier f.name = true ∧ f.name.toList.head? ≠ some '_' ∧
        f.name ∉ Lexical.reservedAttributes ∧ f.name ∉ Lexical.modelSymbols := by
  obtain ⟨base, made, n, hdrafted, hmodels, -, -, -⟩ := build_eq_ok h
  intro m hm
  rw [hmodels] at hm
  obtain ⟨drafted, hmem, variant, hvariant, hplaced⟩ := exists_placed_of_mem hm
  have hnames := hdrafted.areFieldNames hmem
  have hsublist := (fields_sublist_of_mem_variants hvariant).map Field.name
  rw [← hplaced.map_name] at hsublist
  have hnames := hnames.sublist hsublist
  refine ⟨hnames.nodup, fun f hf => ?_⟩
  have hname := hnames.isFieldName f.name (List.mem_map_of_mem hf)
  have hfree := hname.free
  rw [Lexical.reservedWords, List.mem_append, not_or] at hfree
  exact ⟨hname.valid, hname.head, hfree⟩

/-- A class whose properties are all called like something else, and an operation with two
parameters of one name. -/
def parcels : Document where
  version := "3.0.0"
  info := none
  servers := []
  operations := [{ reading "parcels" "/parcels" with
    parameters := [
      { name := "from", location := .query },
      { name := "from_", location := .query }] }]
  schemas := [("parcel", {
    type := some (.one "object")
    properties := some [
      ("_id", { type := some (.one "integer"), readOnly := true }),
      ("json", { type := some (.one "string") }),
      ("json_", { type := some (.one "string") }),
      ("date", { type := some (.one "string") })] })]

theorem areFieldNames_of_build_parcels : ∃ p, build parcels {} = .ok p ∧
    (p.models.map fun m => m.fields.map Field.name) =
      [["json_", "json__2", "date_"], ["field_id", "json_", "json__2", "date_"],
        ["from_", "from__2"]] ∧
    ∀ m ∈ p.models, (m.fields.map Field.name).Nodup ∧ ∀ f ∈ m.fields,
      Lexical.isValidIdentifier f.name = true ∧ f.name.toList.head? ≠ some '_' ∧
      f.name ∉ Lexical.reservedAttributes ∧ f.name ∉ Lexical.modelSymbols := by
  have hbuilds : builds parcels {} (fun p => (p.models.map fun m => m.fields.map Field.name) ==
      [["json_", "json__2", "date_"], ["field_id", "json_", "json__2", "date_"],
        ["from_", "from__2"]]) = true := by decide +kernel
  obtain ⟨p, hp, hnames⟩ := exists_of_builds hbuilds
  exact ⟨p, hp, eq_of_beq hnames, areFieldNames_of_build parcels {} p hp⟩

end TypedClient.Plan
