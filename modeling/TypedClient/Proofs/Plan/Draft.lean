import TypedClient.OpenApi.Reading
import TypedClient.Plan.Build
import TypedClient.Proofs.Order.Arrangement
import TypedClient.Proofs.Plan.Calls

/-!
# Drafted plans

A draft consists of the models before they are brought into order and of the calls. Both are made
from the models of the components and the containers of the operations: a model with fields of one
direction is replaced by its two variants, and every reference is redirected (`redirectModel`,
`redirectCall`). `Drafted` says all that the parts of a draft have in common, and `draft_spec` that
every run leaves such a draft; a plan that is built comes from one (`build_eq_ok`).
-/

namespace TypedClient.Plan

open Client (Settings)
open OpenApi (Document)
open Claiming

/-! ## Variants -/

/-- The models that take the place of a model. -/
def Model.variants (m : Model) : List Model :=
  if m.isDirected then [m.derive .request, m.derive .response] else [m]

/-- The names of the variants of a model have been claimed. -/
def Model.VariantsClaimed (m : Model) (n : Names) : Prop :=
  m.isDirected = true → ∀ v : Variant,
    n.types.lookup (v.nameOf m.name) = some (v.originOf m.name)

section Variants

variable {components : Components} {models : List Model}

theorem Model.variants_of_directed {m : Model} (h : m.isDirected = true) :
    m.variants = [m.derive .request, m.derive .response] := by
  rw [variants, if_pos h]

theorem Model.variants_of_undirected {m : Model} (h : m.isDirected = false) :
    m.variants = [m] := by
  rw [variants, if_neg (by simp [h])]

theorem Model.VariantsClaimed.mono {m : Model} {n next : Names} (h : m.VariantsClaimed n)
    (hnext : n.Extends next) : m.VariantsClaimed next :=
  fun hdirected v => hnext.types _ _ (h hdirected v)

theorem gives_deriveVariant (m : Model) (v : Variant) :
    Gives components (deriveVariant m v) fun derived next =>
      derived = m.derive v ∧ next.types.lookup (v.nameOf m.name) = some (v.originOf m.name) := by
  intro n derived next hn h
  obtain ⟨u, claimed, hclaim, h⟩ := bind_eq_ok h
  obtain ⟨rfl, rfl⟩ := pure_eq_ok h
  obtain ⟨hgrows, hlookup⟩ := Names.grows_of_claimType hn (claimType_eq_ok hclaim)
  exact ⟨hgrows, rfl, hlookup⟩

theorem gives_expandModel (m : Model) :
    Gives components (expandModel m) fun expanded next =>
      expanded = m.variants ∧ m.VariantsClaimed next := by
  unfold expandModel
  split
  · next hdirected =>
      intro n expanded next hn h
      obtain ⟨request, n₁, hrequest, h⟩ := bind_eq_ok h
      obtain ⟨response, n₂, hresponse, h⟩ := bind_eq_ok h
      obtain ⟨rfl, rfl⟩ := pure_eq_ok h
      obtain ⟨hgrows₁, rfl, hlookup₁⟩ := gives_deriveVariant m .request n request n₁ hn hrequest
      obtain ⟨hgrows₂, rfl, hlookup₂⟩ :=
        gives_deriveVariant m .response n₁ response n₂ hgrows₁.sound hresponse
      refine ⟨hgrows₁.trans hgrows₂, (Model.variants_of_directed hdirected).symm, ?_⟩
      intro _ v
      cases v with
      | request => exact hgrows₂.extended.types _ _ hlookup₁
      | response => exact hlookup₂
  · next hdirected =>
      have hdirected : m.isDirected = false := by simpa using hdirected
      intro n expanded next hn h
      obtain ⟨rfl, rfl⟩ := pure_eq_ok h
      refine ⟨Names.Grows.refl hn, (Model.variants_of_undirected hdirected).symm, ?_⟩
      intro hdirected'
      rw [hdirected] at hdirected'
      cases hdirected'

/-- The models after references have been redirected. -/
def splitOf (models : List Model) : List Model :=
  (models.flatMap Model.variants).map (redirectModel (splitNames models))

theorem gives_splitModels (models : List Model) :
    Gives components (splitModels models) fun split next =>
      split = splitOf models ∧ ∀ m ∈ models, m.VariantsClaimed next := by
  intro n split next hn h
  obtain ⟨expanded, middle, hexpanded, h⟩ := bind_eq_ok h
  obtain ⟨rfl, rfl⟩ := pure_eq_ok h
  obtain ⟨hgrows, hall⟩ := gives_mapM (fun m _ => gives_expandModel m)
    (fun _ _ _ _ hnext hm => ⟨hm.1, hm.2.mono hnext⟩) n expanded middle hn hexpanded
  have heq : expanded = models.map Model.variants := by
    rw [← map_eq_map_of_forall₂ (g := id) hall fun _ _ hm => hm.1, List.map_id]
  refine ⟨hgrows, ?_, ?_⟩
  · rw [heq, ← List.flatMap_def]
    rfl
  · intro m hm
    obtain ⟨_, -, -, hclaimed⟩ := exists_of_mem_left hall hm
    exact hclaimed

theorem mem_splitNames {name : String} :
    name ∈ splitNames models ↔ ∃ m ∈ models, m.isDirected = true ∧ m.name = name := by
  unfold splitNames
  rw [List.mem_map]
  constructor
  · rintro ⟨m, hm, hname⟩
    exact ⟨m, (List.mem_filter.1 hm).1, (List.mem_filter.1 hm).2, hname⟩
  · rintro ⟨m, hm, hdirected, hname⟩
    exact ⟨m, List.mem_filter.2 ⟨hm, hdirected⟩, hname⟩

theorem map_name_splitOf (models : List Model) :
    (splitOf models).map Model.name = (models.flatMap Model.variants).map Model.name := by
  unfold splitOf
  rw [List.map_map]
  rfl

/-- A model whose fields go in both directions stays. -/
theorem name_mem_splitOf {m : Model} (hm : m ∈ models) (hdirected : m.isDirected = false) :
    m.name ∈ (splitOf models).map Model.name := by
  rw [map_name_splitOf]
  have hself : m ∈ m.variants := by
    rw [Model.variants_of_undirected hdirected]
    exact List.mem_singleton_self m
  exact List.mem_map_of_mem (List.mem_flatMap.2 ⟨m, hm, hself⟩)

/-- Wherever a model is referred to, the model that takes its place is there. -/
theorem variantName_mem_splitOf {name : String} (h : name ∈ models.map Model.name) (v : Variant) :
    variantName (splitNames models) v name ∈ (splitOf models).map Model.name := by
  by_cases hsplit : name ∈ splitNames models
  · rw [variantName_of_mem hsplit, map_name_splitOf]
    obtain ⟨m, hm, hdirected, rfl⟩ := mem_splitNames.1 hsplit
    have hderive : m.derive v ∈ m.variants := by
      rw [Model.variants_of_directed hdirected]
      cases v <;> simp
    have hname : (m.derive v).name = v.nameOf m.name := rfl
    rw [← hname]
    exact List.mem_map_of_mem (List.mem_flatMap.2 ⟨m, hm, hderive⟩)
  · rw [variantName_of_not_mem hsplit]
    obtain ⟨m, hm, rfl⟩ := List.mem_map.1 h
    have hdirected : m.isDirected = false := by
      by_contra hdirected
      exact hsplit (mem_splitNames.2 ⟨m, hm, by simpa using hdirected, rfl⟩)
    exact name_mem_splitOf hm hdirected

/-- A variant has some of the fields of its model, in order. -/
theorem fields_sublist_of_mem_variants {m variant : Model} (h : variant ∈ m.variants) :
    variant.fields.Sublist m.fields := by
  cases hdirected : m.isDirected with
  | true =>
      rw [Model.variants_of_directed hdirected] at h
      rcases List.mem_cons.1 h with rfl | h
      · exact List.filter_sublist
      · rw [List.mem_singleton.1 h]
        exact List.filter_sublist
  | false =>
      rw [Model.variants_of_undirected hdirected] at h
      rw [List.mem_singleton.1 h]

/-- The kinds of the drafted fields are those of the fields that they come from, with redirected
references. -/
theorem exists_field_of_mem_splitOf {m : Model} (hm : m ∈ splitOf models) {f : Field}
    (hf : f ∈ m.fields) : ∃ base ∈ models, ∃ given ∈ base.fields, ∃ v : Variant,
      f.kind = given.kind.mapModel fun name forward =>
        (variantName (splitNames models) v name, forward) := by
  obtain ⟨variant, hvariant, rfl⟩ := List.mem_map.1 hm
  obtain ⟨base, hbase, hvariant⟩ := List.mem_flatMap.1 hvariant
  obtain ⟨given, hgiven, rfl⟩ := List.mem_map.1 hf
  exact ⟨base, hbase, given, (fields_sublist_of_mem_variants hvariant).subset hgiven,
    variant.direction, rfl⟩

/-- The bodies of a redirected call are those of the call, with redirected references. -/
theorem exists_bodyType_of_redirectCall {split : List String} {c : Call} {type : TypeRef}
    (h : type ∈ (redirectCall split c).bodyTypes) :
    ∃ given ∈ c.bodyTypes, ∃ v : Variant, type = given.mapModel (variantName split v) := by
  rcases List.mem_append.1 h with h | h
  · obtain ⟨given, hgiven, rfl⟩ := Option.map_eq_some_iff.1 (Option.mem_toList.1 h)
    exact ⟨given, List.mem_append_left _ (Option.mem_toList.2 hgiven), .request, rfl⟩
  · obtain ⟨given, hgiven, rfl⟩ := Option.map_eq_some_iff.1 (Option.mem_toList.1 h)
    exact ⟨given, List.mem_append_right _ (Option.mem_toList.2 hgiven), .response, rfl⟩

end Variants

/-! ## Drafts -/

/-- The models before the split: those of the components, then the containers. -/
def allModels (base : List Model) (made : List (Call × Option Model)) : List Model :=
  base ++ made.filterMap Prod.snd

theorem mem_allModels {base : List Model} {made : List (Call × Option Model)} {m : Model} :
    m ∈ allModels base made ↔ m ∈ base ∨ ∃ r ∈ made, r.2 = some m := by
  rw [allModels, List.mem_append, List.mem_filterMap]

/-- What a draft is made from: the models of the components, which come first, the calls of the
allowed operations with their containers, and the names at the end. -/
structure Drafted (d : Document) (s : Settings) (base : List Model)
    (made : List (Call × Option Model)) (n : Names) : Prop where
  sound : n.Sound d.schemas
  modelled : Components.Modelled d.schemas base n
  called : List.Forall₂ (fun o r => Components.Called d.schemas o r n)
    (allowed s.filter d.operations) made
  variantsClaimed : ∀ m ∈ allModels base made, m.VariantsClaimed n
  modelsYielded : Yields (Components.models d.schemas) base
  callsYielded : Yields (Components.calls d.schemas s.mode s.filter d.operations) made
  modelsFirst : ∃ declared, (Components.models d.schemas).run {} = .ok (base, declared) ∧
    declared.enums <+: n.enums

/-- A model before the split comes from an object component or holds the query parameters of an
operation. -/
theorem Drafted.component_or_container {d : Document} {s : Settings} {base : List Model}
    {made : List (Call × Option Model)} {n : Names} (h : Drafted d s base made n) {m : Model}
    (hm : m ∈ allModels base made) :
    (∃ component schema, (component, schema) ∈ d.schemas ∧
      Target.ofComponent component schema = .model m.name ∧
        m.OfComponent d.schemas component n) ∨
    ∃ o ∈ allowed s.filter d.operations, m.ContainerOf d.schemas o n := by
  rcases mem_allModels.1 hm with hm | ⟨r, hr, hquery⟩
  · exact Or.inl (h.modelled.ofComponent m hm)
  · obtain ⟨o, ho, hcalled⟩ := exists_of_mem_right h.called hr
    exact Or.inr ⟨o, ho, hcalled.container m hquery⟩

/-- A draft that succeeds is made from models of components and from calls. -/
theorem draft_spec {d : Document} {s : Settings} {drafted : List Model} {calls : List Call}
    {n : Names} (h : draft d s {} = .ok ((drafted, calls), n)) :
    ∃ base made, Drafted d s base made n ∧
      drafted = splitOf (allModels base made) ∧
      calls = made.map fun c =>
        redirectCall (splitNames (allModels base made)) c.1 := by
  unfold draft at h
  obtain ⟨base, n₁, hbase, h⟩ := bind_eq_ok h
  obtain ⟨made, n₂, hmade, h⟩ := bind_eq_ok h
  obtain ⟨split, n₃, hsplit, h⟩ := bind_eq_ok h
  have hresult := pure_eq_ok h
  rw [Prod.mk.injEq] at hresult
  obtain ⟨⟨rfl, rfl⟩, rfl⟩ := hresult
  obtain ⟨hgrows₁, hmodelled⟩ := gives_models {} base n₁ (Names.sound_empty d.schemas) hbase
  obtain ⟨hgrows₂, hcalled⟩ :=
    gives_calls s.mode s.filter d.operations n₁ made n₂ hgrows₁.sound hmade
  obtain ⟨hgrows₃, rfl, hclaimed⟩ := gives_splitModels _ n₂ split n₃ hgrows₂.sound hsplit
  refine ⟨base, made, ⟨hgrows₃.sound, ?_, ?_, hclaimed, yields_of_ok hbase, yields_of_ok hmade,
    n₁, hbase, (hgrows₂.trans hgrows₃).extended.enums⟩, rfl, rfl⟩
  · exact hmodelled.mono (hgrows₂.trans hgrows₃).extended
  · exact hcalled.imp fun _ _ hr => hr.mono hgrows₃.extended

/-- What a plan that is built has from its draft. -/
theorem build_eq_ok {d : Document} {s : Settings} {p : TypedClient.Plan} (h : build d s = .ok p) :
    ∃ base made n, Drafted d s base made n ∧
      p.models = orderModels (splitOf (allModels base made)) ∧
      p.calls = made.map (fun c =>
        redirectCall (splitNames (allModels base made)) c.1) ∧
      p.enums = n.enums ∧ p.clientImports = .collect p.calls := by
  unfold build at h
  split at h
  · cases h
  · split at h
    · cases h
    · next drafted calls n hdraft =>
        obtain ⟨base, made, hdrafted, rfl, rfl⟩ := draft_spec hdraft
        cases h
        exact ⟨base, made, n, hdrafted, rfl, rfl, rfl, rfl⟩

/-- Whether there is a plan and it passes the test. -/
def builds (d : Document) (s : Settings) (test : TypedClient.Plan → Bool) : Bool :=
  match build d s with
  | .ok p => test p
  | .error _ => false

theorem exists_of_builds {d : Document} {s : Settings} {test : TypedClient.Plan → Bool}
    (h : builds d s test = true) : ∃ p, build d s = .ok p ∧ test p = true := by
  unfold builds at h
  split at h
  · next p hp => exact ⟨p, hp, h⟩
  · cases h

/-- Whether the value is a document that has a plan, and the plan passes the test. -/
def generates (root : Json) (s : Settings) (test : TypedClient.Plan → Bool) : Bool :=
  match Document.ofJson root with
  | .ok d => builds d s test
  | .error _ => false

theorem exists_of_generates {root : Json} {s : Settings} {test : TypedClient.Plan → Bool}
    (h : generates root s test = true) :
    ∃ d p, Document.ofJson root = .ok d ∧ build d s = .ok p ∧ test p = true := by
  unfold generates at h
  split at h
  · next d hd =>
      obtain ⟨p, hp, htest⟩ := exists_of_builds h
      exact ⟨d, p, hd, hp, htest⟩
  · cases h

/-- Whether the value is a document that has no plan, and the reason passes the test. -/
def refuses (root : Json) (s : Settings) (test : GenerationError → Bool) : Bool :=
  match Document.ofJson root with
  | .ok d =>
    match build d s with
    | .ok _ => false
    | .error e => test e
  | .error _ => false

theorem exists_of_refuses {root : Json} {s : Settings} {test : GenerationError → Bool}
    (h : refuses root s test = true) :
    ∃ d e, Document.ofJson root = .ok d ∧ build d s = .error e ∧ test e = true := by
  unfold refuses at h
  split at h
  · next d hd =>
      split at h
      · cases h
      · next e he => exact ⟨d, e, hd, he, h⟩
  · cases h

end TypedClient.Plan
