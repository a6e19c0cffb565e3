import TypedClient.Proofs.Plan.Placement
import TypedClient.Proofs.Render.Declarations

/-!
# Required fields and null

A field of a component may be left out exactly if its property is not required. Null is then no
question of its own: it is rejected by a check, one for each field that has to be there and may not
be null (`validatorsOf`), and the variants of a model have the checks of their fields
(`validatorsOf_filter`). Every model of a plan obeys this (`requiredLaw_of_build`), and what is
written for a field says the same (`Model.Requires.declaration_iff`).
-/

namespace TypedClient.Plan

open Client (Settings)
open OpenApi (Document Schema)

/-- The fields, checks and declarations of the model are those that the required properties of an
object ask for. -/
structure Model.Requires (components : Components) (s : Schema) (m : Model) : Prop where
  property : ∀ f ∈ m.fields, ∃ x ∈ propertiesOf s, f.wireName = x.1 ∧
    f.nullable = components.nullable x.2
  optional_iff : ∀ f ∈ m.fields, f.optional = true ↔ f.wireName ∉ s.required
  count_validators : ∀ f ∈ m.fields, (m.validators.map Validator.field).count f.name =
    if f.wireName ∈ s.required ∧ f.nullable = false then 1 else 0
  field_of_validator : ∀ check ∈ m.validators, ∃ f ∈ m.fields, f.name = check.field
  declaration_iff : ∀ f ∈ m.fields, ∀ a : Render.Assignment,
    Render.fieldDeclaration m f =
        f.name ++ ": Optional[" ++ Render.kindHint f.kind ++ "]" ++ a.text ↔
      (a.marker = .none ↔ f.wireName ∉ s.required) ∧
        ∀ name, a.alias? = some name ↔ f.name ≠ f.wireName ∧ name = f.wireName

/-- Every model from a component obeys the required properties of its schema, and containers have no
checks. -/
structure RequiredLaw (d : Document) (p : TypedClient.Plan) : Prop where
  component : ∀ m ∈ p.models, ∀ component, m.origin = .component component →
    ∃ schema, d.schemas.lookup component = some schema ∧ m.Requires d.schemas schema
  container : ∀ m ∈ p.models, ∀ id, m.origin = .queryParameters id → m.validators = []

/-! ## Checks -/

section Checks

theorem rejectsNull_iff (f : Field) :
    f.rejectsNull = true ↔ f.optional = false ∧ f.nullable = false := by
  simp [Field.rejectsNull]

theorem map_field_validatorsOf (fields : List Field) :
    (validatorsOf fields).map Validator.field =
      (fields.filter Field.rejectsNull).map Field.name := by
  rw [validatorsOf, List.map_map]
  rfl

/-- Among selected fields, those of distinct identifiers are found by their identifiers. -/
theorem any_name_filter {fields : List Field} (hnodup : (fields.map Field.name).Nodup)
    (test : Field → Bool) {f : Field} (hf : f ∈ fields) :
    ((fields.filter test).any fun g => g.name == f.name) = test f := by
  rw [Bool.eq_iff_iff, List.any_eq_true]
  constructor
  · rintro ⟨g, hg, hname⟩
    obtain ⟨hg, htest⟩ := List.mem_filter.1 hg
    rwa [← List.inj_on_of_nodup_map hnodup hg hf (eq_of_beq hname)]
  · intro htest
    exact ⟨f, List.mem_filter.2 ⟨hf, htest⟩, beq_self_eq_true _⟩

/-- The checks of selected fields are those that check one of them. -/
theorem validatorsOf_filter {fields : List Field} (hnodup : (fields.map Field.name).Nodup)
    (test : Field → Bool) :
    (validatorsOf fields).filter (fun check => (fields.filter test).any fun f =>
      f.name == check.field) = validatorsOf (fields.filter test) := by
  unfold validatorsOf
  rw [List.filter_map, List.filter_comm Field.rejectsNull test]
  congr 1
  apply List.filter_congr
  intro f hf
  exact any_name_filter hnodup test (List.mem_of_mem_filter hf)

theorem count_map_field_validatorsOf {fields : List Field}
    (hnodup : (fields.map Field.name).Nodup) {f : Field} (hf : f ∈ fields) :
    ((validatorsOf fields).map Validator.field).count f.name =
      if f.rejectsNull = true then 1 else 0 := by
  rw [map_field_validatorsOf]
  split
  · next hrejects =>
      apply List.count_eq_one_of_mem (hnodup.sublist (List.filter_sublist.map _))
      exact List.mem_map_of_mem (List.mem_filter.2 ⟨hf, hrejects⟩)
  · next hrejects =>
      apply List.count_eq_zero_of_not_mem
      intro hmem
      obtain ⟨g, hg, hname⟩ := List.mem_map.1 hmem
      obtain ⟨hg, hg'⟩ := List.mem_filter.1 hg
      rw [List.inj_on_of_nodup_map hnodup hg hf hname] at hg'
      exact hrejects hg'

theorem validatorsOf_eq_of_redirected {split : List String} {v : Variant} {fs fs' : List Field}
    (h : List.Forall₂ (Field.Redirected split v) fs fs') : validatorsOf fs' = validatorsOf fs := by
  have hfilter : List.Forall₂ (Field.Redirected split v) (fs.filter Field.rejectsNull)
      (fs'.filter Field.rejectsNull) :=
    forall₂_filter h fun f f' hf => by
      rw [Field.rejectsNull, Field.rejectsNull, hf.optional_eq, hf.nullable_eq]
  exact map_eq_map_of_forall₂ hfilter fun f f' hf => by rw [hf.name_eq]

end Checks

/-! ## Models in their places -/

section Placed

variable {components : Components} {component name : String} {s : Schema} {drafted : Model}

/-- The variants of the model of a component have distinct identifiers and the checks of their
fields. -/
theorem checks_of_mem_variants (h : drafted.Describes components component name s)
    {variant : Model} (hvariant : variant ∈ drafted.variants) :
    (variant.fields.map Field.name).Nodup ∧ variant.validators = validatorsOf variant.fields := by
  have hderive : ∀ v, ((drafted.derive v).fields.map Field.name).Nodup ∧
      (drafted.derive v).validators = validatorsOf (drafted.derive v).fields := by
    -- A variant keeps the checks that name one of its fields; identifiers tell fields apart.
    intro v
    refine ⟨h.names_nodup.sublist (List.filter_sublist.map _), ?_⟩
    change drafted.validators.filter _ = _
    rw [h.validators_eq]
    exact validatorsOf_filter h.names_nodup _
  cases hdirected : drafted.isDirected with
  | true =>
      rw [Model.variants_of_directed hdirected] at hvariant
      rcases List.mem_cons.1 hvariant with rfl | hvariant
      · exact hderive .request
      · rw [List.mem_singleton.1 hvariant]
        exact hderive .response
  | false =>
      rw [Model.variants_of_undirected hdirected] at hvariant
      rw [List.mem_singleton.1 hvariant]
      exact ⟨h.names_nodup, h.validators_eq⟩

theorem requires_of_placed {split : List String} {variant m : Model}
    (h : drafted.Describes components component name s) (hvariant : variant ∈ drafted.variants)
    (hplaced : Model.Placed split variant m) : m.Requires components s := by
  obtain ⟨hnodup, hchecks⟩ := checks_of_mem_variants h hvariant
  have hnodup : (m.fields.map Field.name).Nodup := by
    rwa [map_eq_map_of_forall₂ hplaced.fields fun _ _ hf => hf.name_eq]
  have hchecks : m.validators = validatorsOf m.fields := by
    rw [hplaced.validators_eq, hchecks, validatorsOf_eq_of_redirected hplaced.fields]
  have hproperty : ∀ f ∈ m.fields, ∃ x ∈ propertiesOf s, f.wireName = x.1 ∧
      f.nullable = components.nullable x.2 ∧ (f.optional = true ↔ x.1 ∉ s.required) := by
    intro f hf
    obtain ⟨given, hgiven, hredirected⟩ := exists_of_mem_right hplaced.fields hf
    obtain ⟨x, hx, hof⟩ := exists_of_mem_right h.fields
      ((fields_sublist_of_mem_variants hvariant).subset hgiven)
    refine ⟨x, hx, hredirected.wireName_eq.trans hof.wireName_eq,
      hredirected.nullable_eq.trans hof.nullable_eq, ?_⟩
    rw [hredirected.optional_eq, hof.optional_eq]
    simp
  have hoptional : ∀ f ∈ m.fields, f.optional = true ↔ f.wireName ∉ s.required := by
    intro f hf
    obtain ⟨x, -, hname, -, hiff⟩ := hproperty f hf
    rw [hname, hiff]
  have horigin : m.origin.isComponent = true := by
    rw [hplaced.origin_eq, origin_of_mem_variants hvariant, h.origin_eq]
    rfl
  refine ⟨?_, hoptional, ?_, ?_, ?_⟩
  · intro f hf
    obtain ⟨x, hx, hname, hnullable, -⟩ := hproperty f hf
    exact ⟨x, hx, hname, hnullable⟩
  · intro f hf
    rw [hchecks, count_map_field_validatorsOf hnodup hf]
    have hrejects : f.rejectsNull = true ↔ f.wireName ∈ s.required ∧ f.nullable = false := by
      rw [rejectsNull_iff, ← Bool.not_eq_true, hoptional f hf, Classical.not_not]
    simp only [hrejects]
  · intro check hcheck
    rw [hchecks] at hcheck
    obtain ⟨f, hf, rfl⟩ := List.mem_map.1 hcheck
    exact ⟨f, List.mem_of_mem_filter hf, rfl⟩
  · intro f hf a
    rw [Render.fieldDeclaration_eq_iff horigin, Render.Assignment.eq_ofField_iff, hoptional f hf]

end Placed

/-! ## Built plans -/

/-- Components are the members of an object, so their names are distinct. Then every plan that is
built obeys the required properties of its components. -/
theorem requiredLaw_of_build (d : Document) (s : Settings) (p : TypedClient.Plan)
    (hkeys : (d.schemas.map Prod.fst).Nodup) (h : build d s = .ok p) : RequiredLaw d p := by
  obtain ⟨base, made, n, hdrafted, hmodels, -, -, -⟩ := build_eq_ok h
  refine ⟨?_, ?_⟩
  · intro m hm component horigin
    rw [hmodels] at hm
    obtain ⟨drafted, schema, hschema, -, hdescribes, variant, hvariant, hplaced⟩ :=
      hdrafted.exists_placed_of_component hm horigin
    exact ⟨schema, lookup_of_mem hkeys hschema, requires_of_placed hdescribes hvariant hplaced⟩
  · intro m hm id horigin
    rw [hmodels] at hm
    obtain ⟨o, -, -, drafted, hcollects, hplaced⟩ :=
      hdrafted.exists_placed_of_queryParameters hm horigin
    rw [hplaced.validators_eq, hcollects.validators_eq]

/-- Pets: the number of a pet is only sent in responses, its tag has to be given but may be null,
and its age may be left out. -/
def pets : Document where
  version := "3.0.0"
  info := none
  servers := []
  operations := []
  schemas := [("pet", {
    type := some (.one "object")
    properties := some [
      ("number", { type := some (.one "integer"), readOnly := true }),
      ("tag", { type := some (.one "string"), nullable := true }),
      ("age", { type := some (.one "integer") })]
    required := ["number", "tag"] })]

theorem requiredLaw_of_build_pets : (pets.schemas.map Prod.fst).Nodup ∧ ∃ p,
    build pets {} = .ok p ∧ RequiredLaw pets p ∧
      p.models.map (fun m => (m.validators.map Validator.field,
        m.fields.map (Render.fieldDeclaration m))) =
        [([], ["tag: Optional[str] = Field(...)", "age: Optional[int] = None"]),
          (["number"], ["number: Optional[int] = Field(...)", "tag: Optional[str] = Field(...)",
            "age: Optional[int] = None"])] := by
  have hkeys : (pets.schemas.map Prod.fst).Nodup := by decide
  have hbuilds : builds pets {} (fun p => p.models.map (fun m => (m.validators.map Validator.field,
      m.fields.map (Render.fieldDeclaration m))) ==
        [([], ["tag: Optional[str] = Field(...)", "age: Optional[int] = None"]),
          (["number"], ["number: Optional[int] = Field(...)", "tag: Optional[str] = Field(...)",
            "age: Optional[int] = None"])]) = true := by
    decide +kernel
  obtain ⟨p, hp, hwritten⟩ := exists_of_builds hbuilds
  exact ⟨hkeys, p, hp, requiredLaw_of_build pets {} p hkeys hp, eq_of_beq hwritten⟩

end TypedClient.Plan
