import Mathlib.Data.List.Perm.Basic
import TypedClient.Proofs.Plan.ClassNames
import TypedClient.Proofs.Plan.Fields

/-!
# Models in their places

A model of a plan takes the place of a variant of a drafted model: it has the same fields and
checks, with references redirected to variants (`Model.Placed`). No variant is lost and none comes
twice (`exists_placed`), so the models of a plan that come from one component are the variants of
its one model (`Drafted.exists_placed_component`).
-/

namespace TypedClient.Plan

open Client (Settings)
open OpenApi (Document Operation Schema)
open Claiming

/-! ## Placed models -/

/-- The field is the given one, with references redirected for a direction and marked somehow. -/
structure Field.Redirected (split : List String) (v : Variant) (f f' : Field) : Prop where
  name_eq : f'.name = f.name
  wireName_eq : f'.wireName = f.wireName
  optional_eq : f'.optional = f.optional
  nullable_eq : f'.nullable = f.nullable
  visibility_eq : f'.visibility = f.visibility
  model?_eq : f'.kind.model? = f.kind.model?.map (variantName split v)

/-- The model takes the place of a variant. -/
structure Model.Placed (split : List String) (variant m : Model) : Prop where
  name_eq : m.name = variant.name
  origin_eq : m.origin = variant.origin
  variant_eq : m.variant = variant.variant
  validators_eq : m.validators = variant.validators
  fields : List.Forall₂ (Field.Redirected split variant.direction) variant.fields m.fields

section Placed

variable {split : List String} {models : List Model}

theorem placed_markedAt (variant : Model) (names : List String) (position : Nat) :
    Model.Placed split variant ((redirectModel split variant).markedAt names position) := by
  refine ⟨rfl, rfl, rfl, rfl, ?_⟩
  change List.Forall₂ _ _ (List.map _ (List.map _ variant.fields))
  rw [List.map_map, List.forall₂_map_right_iff, List.forall₂_same]
  intro f _
  refine ⟨rfl, rfl, rfl, rfl, rfl, ?_⟩
  change ((f.kind.mapModel _).mapModel _).model? = _
  rw [Kind.mapModel_mapModel, Kind.model?_mapModel]

theorem forall₂_markModels (models : List Model) :
    List.Forall₂ (fun given m => ∃ names position, m = given.markedAt names position) models
      (markModels models) := by
  have hlength : models.length = (markModels models).length := by
    simpa using (congrArg List.length (map_name_markModels models)).symm
  rw [List.forall₂_iff_get]
  refine ⟨hlength, ?_⟩
  intro i hi hi'
  have hget := getElem?_markModels models i
  rw [List.getElem?_eq_getElem hi, List.getElem?_eq_getElem hi', Option.map_some,
    Option.some.injEq] at hget
  exact ⟨_, _, hget⟩

/-- Ordering the models after the split puts one model in the place of each variant. -/
theorem exists_placed (models : List Model) :
    ∃ placed, placed.Perm (orderModels (splitOf models)) ∧
      List.Forall₂ (Model.Placed (splitNames models)) (models.flatMap Model.variants) placed := by
  obtain ⟨placed, hall, hperm⟩ := List.perm_comp_forall₂ (arrange_perm (splitOf models)).symm
    (forall₂_markModels (arrange (splitOf models)))
  refine ⟨placed, hperm, ?_⟩
  rw [splitOf, List.forall₂_map_left_iff] at hall
  refine hall.imp ?_
  rintro variant m ⟨names, position, rfl⟩
  exact placed_markedAt variant names position

theorem origin_of_mem_variants {m variant : Model} (h : variant ∈ m.variants) :
    variant.origin = m.origin := by
  cases hdirected : m.isDirected with
  | true =>
      rw [Model.variants_of_directed hdirected] at h
      rcases List.mem_cons.1 h with rfl | h
      · rfl
      · rw [List.mem_singleton.1 h]
        rfl
  | false =>
      rw [Model.variants_of_undirected hdirected] at h
      rw [List.mem_singleton.1 h]

theorem filter_flatMap_variants (models : List Model) (origin : Origin) :
    (models.flatMap Model.variants).filter (fun m => m.origin == origin) =
      (models.filter fun m => m.origin == origin).flatMap Model.variants := by
  induction models with
  | nil => rfl
  | cons m models ih =>
      rw [List.flatMap_cons, List.filter_append, ih]
      by_cases horigin : m.origin = origin
      · have hall : m.variants.filter (fun m => m.origin == origin) = m.variants := by
          rw [List.filter_eq_self]
          intro variant hvariant
          rw [origin_of_mem_variants hvariant, horigin, beq_self_eq_true]
        rw [hall, List.filter_cons_of_pos (by simpa using horigin), List.flatMap_cons]
      · have hnone : m.variants.filter (fun m => m.origin == origin) = [] := by
          rw [List.filter_eq_nil_iff]
          intro variant hvariant
          rw [origin_of_mem_variants hvariant]
          simpa using horigin
        rw [hnone, List.filter_cons_of_neg (by simpa using horigin), List.nil_append]

theorem Model.Collects.isDirected_eq {components : Components} {o : Operation} {m : Model}
    (h : m.Collects components o) : m.isDirected = false := by
  unfold Model.isDirected
  rw [List.any_eq_false]
  intro f hf
  obtain ⟨q, -, hq⟩ := exists_of_mem_right h.fields hf
  simp [hq.visibility_eq]

theorem Model.Collects.variants_eq {components : Components} {o : Operation} {m : Model}
    (h : m.Collects components o) : m.variants = [m] :=
  Model.variants_of_undirected h.isDirected_eq

end Placed

section Drafts

variable {d : Document} {s : Settings} {base : List Model} {made : List (Call × Option Model)}
  {n : Names}

namespace Drafted

/-- A model before the split is the one model of an object component or collects the query
parameters of an operation. -/
theorem describes_or_collects (h : Drafted d s base made n) {m : Model}
    (hm : m ∈ allModels base made) :
    (∃ component schema, (component, schema) ∈ d.schemas ∧
      Target.ofComponent component schema = .model m.name ∧
        m.Describes d.schemas component m.name schema) ∨
    ∃ o ∈ allowed s.filter d.operations, m.Collects d.schemas o := by
  rcases mem_allModels.1 hm with hm | ⟨r, hr, hquery⟩
  · obtain ⟨component, schema, name, hmem, htarget, hdescribes⟩ :=
      (describes_of_yields_models h.modelsYielded).1 m hm
    obtain rfl := hdescribes.name_eq
    exact Or.inl ⟨component, schema, hmem, htarget, hdescribes⟩
  · obtain ⟨o, ho, hyields⟩ := exists_of_mem_right (forall₂_of_yields_mapM h.callsYielded) hr
    exact Or.inr ⟨o, ho, (collects_of_yields_call hyields).2.2 m hquery⟩

/-- An object component has one model before the split. -/
theorem filter_allModels (h : Drafted d s base made n) (hkeys : (d.schemas.map Prod.fst).Nodup)
    {component name : String} {schema : Schema} (hmem : (component, schema) ∈ d.schemas)
    (htarget : Target.ofComponent component schema = .model name) :
    ∃ m, (allModels base made).filter (fun m => m.origin == .component component) = [m] ∧
      m.Describes d.schemas component name schema := by
  obtain ⟨m, hm, hdescribes⟩ :=
    (describes_of_yields_models h.modelsYielded).2 component schema name hmem htarget
  refine ⟨m, ?_, hdescribes⟩
  have hcontainers : (made.filterMap Prod.snd).filter
      (fun m => m.origin == .component component) = [] := by
    rw [List.filter_eq_nil_iff]
    intro container hcontainer
    obtain ⟨r, hr, hquery⟩ := List.mem_filterMap.1 hcontainer
    obtain ⟨o, -, hyields⟩ := exists_of_mem_right (forall₂_of_yields_mapM h.callsYielded) hr
    rw [((collects_of_yields_call hyields).2.2 container hquery).origin_eq]
    simp
  rw [allModels, List.filter_append, hcontainers, List.append_nil]
  -- The origins of the models are distinct, so only `m` comes from the component.
  have hcount : (base.map Model.origin).count (.component component) = 1 := by
    apply List.count_eq_one_of_mem (h.nodup_origins hkeys)
    rw [← hdescribes.origin_eq]
    exact List.mem_map_of_mem hm
  rw [List.count, List.countP_map, List.countP_eq_length_filter] at hcount
  obtain ⟨m', hsingle⟩ := List.length_eq_one_iff.1 hcount
  have hself : m ∈ base.filter fun m => m.origin == .component component :=
    List.mem_filter.2 ⟨hm, by rw [hdescribes.origin_eq, beq_self_eq_true]⟩
  change List.filter (fun m => m.origin == .component component) base = [m'] at hsingle
  rw [hsingle] at hself ⊢
  rw [List.mem_singleton.1 hself]

/-- The models from an object component take the places of the variants of its model. -/
theorem exists_placed_component (h : Drafted d s base made n)
    (hkeys : (d.schemas.map Prod.fst).Nodup) {component name : String} {schema : Schema}
    (hmem : (component, schema) ∈ d.schemas)
    (htarget : Target.ofComponent component schema = .model name) :
    ∃ (m : Model) (placed : List Model), m.Describes d.schemas component name schema ∧
      List.Perm placed ((orderModels (splitOf (allModels base made))).filter
        fun m => m.origin == .component component) ∧
      List.Forall₂ (Model.Placed (splitNames (allModels base made))) m.variants placed := by
  obtain ⟨m, hfilter, hdescribes⟩ := h.filter_allModels hkeys hmem htarget
  obtain ⟨placed, hperm, hall⟩ := exists_placed (allModels base made)
  refine ⟨m, placed.filter fun m => m.origin == .component component, hdescribes,
    hperm.filter _, ?_⟩
  have hvariants := filter_flatMap_variants (allModels base made) (.component component)
  rw [hfilter, List.flatMap_singleton] at hvariants
  rw [← hvariants]
  exact forall₂_filter hall fun variant m hplaced => by rw [hplaced.origin_eq]

end Drafted

theorem exists_placed_of_mem {models : List Model} {m : Model}
    (hm : m ∈ orderModels (splitOf models)) :
    ∃ drafted ∈ models, ∃ variant ∈ drafted.variants,
      Model.Placed (splitNames models) variant m := by
  obtain ⟨placed, hperm, hall⟩ := exists_placed models
  obtain ⟨variant, hvariant, hplaced⟩ := exists_of_mem_right hall (hperm.mem_iff.2 hm)
  obtain ⟨drafted, hdrafted, hvariant⟩ := List.mem_flatMap.1 hvariant
  exact ⟨drafted, hdrafted, variant, hvariant, hplaced⟩

namespace Drafted

/-- A model from a component takes the place of a variant of the component's model. -/
theorem exists_placed_of_component (h : Drafted d s base made n) {m : Model}
    (hm : m ∈ orderModels (splitOf (allModels base made))) {component : String}
    (horigin : m.origin = .component component) :
    ∃ (drafted : Model) (schema : Schema), (component, schema) ∈ d.schemas ∧
      Target.ofComponent component schema = .model drafted.name ∧
      drafted.Describes d.schemas component drafted.name schema ∧
      ∃ variant ∈ drafted.variants,
        Model.Placed (splitNames (allModels base made)) variant m := by
  obtain ⟨drafted, hmem, variant, hvariant, hplaced⟩ := exists_placed_of_mem hm
  rw [hplaced.origin_eq, origin_of_mem_variants hvariant] at horigin
  rcases h.describes_or_collects hmem with
    ⟨component', schema, hschema, htarget, hdescribes⟩ | ⟨o, -, hcollects⟩
  · rw [hdescribes.origin_eq] at horigin
    cases horigin
    exact ⟨drafted, schema, hschema, htarget, hdescribes, variant, hvariant, hplaced⟩
  · rw [hcollects.origin_eq] at horigin
    cases horigin

/-- A model that holds query parameters takes the place of the container of an operation. -/
theorem exists_placed_of_queryParameters (h : Drafted d s base made n) {m : Model}
    (hm : m ∈ orderModels (splitOf (allModels base made))) {id : String}
    (horigin : m.origin = .queryParameters id) :
    ∃ o ∈ allowed s.filter d.operations, operationId o = id ∧
      ∃ drafted : Model, drafted.Collects d.schemas o ∧
        Model.Placed (splitNames (allModels base made)) drafted m := by
  obtain ⟨drafted, hmem, variant, hvariant, hplaced⟩ := exists_placed_of_mem hm
  rw [hplaced.origin_eq, origin_of_mem_variants hvariant] at horigin
  rcases h.describes_or_collects hmem with
    ⟨component, schema, -, -, hdescribes⟩ | ⟨o, ho, hcollects⟩
  · rw [hdescribes.origin_eq] at horigin
    cases horigin
  · rw [hcollects.origin_eq] at horigin
    cases horigin
    rw [hcollects.variants_eq, List.mem_singleton] at hvariant
    exact ⟨o, ho, rfl, drafted, hcollects, hvariant ▸ hplaced⟩

end Drafted

end Drafts

end TypedClient.Plan
