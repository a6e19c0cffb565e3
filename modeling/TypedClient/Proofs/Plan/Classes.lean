import TypedClient.Proofs.Plan.Visibility

/-!
# Classes of models

The class names of the models can be read off the document (`ClassOf`): an object component stands
for one class or for its two variants, and an operation with query parameters for a container. A
draft has exactly these classes (`Drafted.mem_names_iff`), and so has a plan that is built
(`mem_modelNames_iff`).
-/

namespace TypedClient.Plan

open Client (Settings)
open OpenApi (Document Operation Schema)

/-- What the class names of models come from: an object component that is not split has its own
name, one that is split the names of its two variants, and query parameters have a container. -/
inductive ClassOf (d : Document) (s : Settings) : String → Prop where
  | whole {component name : String} {schema : Schema} (hmem : (component, schema) ∈ d.schemas)
      (htarget : Target.ofComponent component schema = .model name)
      (hwhole : Components.isDirected d.schemas schema = false) : ClassOf d s name
  | half {component name : String} {schema : Schema} (hmem : (component, schema) ∈ d.schemas)
      (htarget : Target.ofComponent component schema = .model name)
      (hdirected : Components.isDirected d.schemas schema = true) (v : Variant) :
      ClassOf d s (v.nameOf name)
  | container {o : Operation} (ho : o ∈ allowed s.filter d.operations)
      (hquery : hasQuery o = true) : ClassOf d s (containerName o)

section Drafts

variable {d : Document} {s : Settings} {base : List Model} {made : List (Call × Option Model)}
  {n : Names}

/-- The class names of the models of a draft. -/
theorem Drafted.mem_names_iff (h : Drafted d s base made n) {name : String} :
    name ∈ (splitOf (allModels base made)).map Model.name ↔ ClassOf d s name := by
  rw [map_name_splitOf]
  constructor
  · intro hname
    obtain ⟨variant, hvariant, rfl⟩ := List.mem_map.1 hname
    obtain ⟨m, hm, hvariant⟩ := List.mem_flatMap.1 hvariant
    rcases mem_allModels.1 hm with hbase | ⟨r, hr, hquery⟩
    · obtain ⟨component, schema, name, hmem, htarget, hdescribes⟩ :=
        (describes_of_yields_models h.modelsYielded).1 m hbase
      have hdirection := hdescribes.isDirected_eq
      obtain rfl := hdescribes.name_eq
      cases hdirected : m.isDirected with
      | false =>
          rw [Model.variants_of_undirected hdirected] at hvariant
          rw [List.mem_singleton.1 hvariant]
          exact .whole hmem htarget (hdirection.symm.trans hdirected)
      | true =>
          rw [Model.variants_of_directed hdirected] at hvariant
          have hhalf := ClassOf.half (s := s) hmem htarget (hdirection.symm.trans hdirected)
          rcases List.mem_cons.1 hvariant with rfl | hvariant
          · exact hhalf .request
          · rw [List.mem_singleton.1 hvariant]
            exact hhalf .response
    · obtain ⟨o, ho, hcalled⟩ := exists_of_mem_right h.called hr
      have hcontainer := hcalled.container m hquery
      rw [Model.variants_of_undirected hcontainer.undirected] at hvariant
      rw [List.mem_singleton.1 hvariant, hcontainer.name_eq]
      exact .container ho (hcalled.isSome_iff.1 (by rw [hquery, Option.isSome_some]))
  · intro hname
    cases hname with
    | @whole component name schema hmem htarget hwhole =>
        obtain ⟨m, hm, hdescribes⟩ :=
          (describes_of_yields_models h.modelsYielded).2 component schema name hmem htarget
        rw [← hdescribes.name_eq, ← map_name_splitOf]
        exact name_mem_splitOf (mem_allModels.2 (Or.inl hm))
          (hdescribes.isDirected_eq.trans hwhole)
    | @half component name schema hmem htarget hdirected v =>
        obtain ⟨m, hm, hdescribes⟩ :=
          (describes_of_yields_models h.modelsYielded).2 component schema name hmem htarget
        have hderive : m.derive v ∈ m.variants := by
          rw [Model.variants_of_directed (hdescribes.isDirected_eq.trans hdirected)]
          cases v <;> simp
        rw [← hdescribes.name_eq]
        exact List.mem_map_of_mem (f := Model.name)
          (List.mem_flatMap.2 ⟨m, mem_allModels.2 (Or.inl hm), hderive⟩)
    | @container o ho hquery =>
        obtain ⟨r, hr, hcalled⟩ := exists_of_mem_left h.called ho
        obtain ⟨m, hm⟩ := Option.isSome_iff_exists.1 (hcalled.isSome_iff.2 hquery)
        have hcontainer := hcalled.container m hm
        rw [← hcontainer.name_eq, ← map_name_splitOf]
        exact name_mem_splitOf (mem_allModels.2 (Or.inr ⟨r, hr, hm⟩)) hcontainer.undirected

end Drafts

theorem mem_modelNames_iff {d : Document} {s : Settings} {p : TypedClient.Plan}
    (h : build d s = .ok p) {name : String} :
    name ∈ p.models.map Model.name ↔ ClassOf d s name := by
  obtain ⟨base, made, n, hdrafted, hmodels, -⟩ := build_eq_ok h
  rw [hmodels, mem_map_name_orderModels, hdrafted.mem_names_iff]

end TypedClient.Plan
