import TypedClient.Proofs.Plan.Draft
import TypedClient.Render.Classes

/-!
# Closed plans

A plan is closed if every class that it mentions is one of its own and, inside models, stands before
the place that mentions it unless the mention is a forward reference (`Plan.Closed`). Every plan
that is built is closed (`closed_of_build`): a reference that a stage gives out stands for a
component, the split puts a model wherever references are redirected to, and the order is what
references are marked by.
-/

namespace TypedClient.Plan

open Client (Settings)
open OpenApi (Document Schema)

/-- Some field of the model refers forward, through any nesting of lists. -/
def Model.RefersForward (m : Model) : Prop :=
  ∃ f ∈ m.fields, ∃ target, Kind.Part (.model target true) f.kind

/-- Every class that the plan mentions is one of its own, and models stand before the models that
refer to them other than forward. -/
structure Closed (p : TypedClient.Plan) : Prop where
  reference_mem : ∀ m ∈ p.models, ∀ f ∈ m.fields, ∀ (name : String) (forward : Bool),
    Kind.Part (.model name forward) f.kind → name ∈ p.models.map Model.name
  body_mem : ∀ c ∈ p.calls, ∀ type : TypeRef, c.body = some type ∨ c.response = some type →
    ∀ name : String, type = .model name ∨ type = .modelList name →
      name ∈ p.models.map Model.name
  query_mem : ∀ c ∈ p.calls, ∀ name : String, c.queryModel = some name →
    name ∈ p.models.map Model.name
  import_mem : ∀ name ∈ p.clientImports.models, name ∈ p.models.map Model.name
  enumeration_mem : ∀ m ∈ p.models, ∀ f ∈ m.fields, ∀ name : String,
    Kind.Part (.enumeration name) f.kind → name ∈ p.enums.map Enumeration.name
  before : ∀ (i : Nat) (m : Model), p.models[i]? = some m → ∀ f ∈ m.fields, ∀ name : String,
    Kind.Part (.model name false) f.kind →
      ∃ j < i, ∃ target : Model, p.models[j]? = some target ∧ target.name = name
  forward : ∃ holders : List Model, holders.Sublist p.models ∧
    (∀ m, m ∈ holders ↔ m ∈ p.models ∧ m.RefersForward) ∧
    Render.forwardModels p.models = holders.map Model.name

/-! ## Forward references -/

theorem hasForward_iff (m : Model) : m.hasForward = true ↔ m.RefersForward := by
  unfold Model.hasForward Model.RefersForward
  rw [List.any_eq_true]
  constructor
  · rintro ⟨f, hf, hforward⟩
    cases hmodel : f.kind.model? with
    | some target => exact ⟨f, hf, target, Kind.part_model_iff.2 ⟨hmodel, hforward⟩⟩
    | none =>
        rw [Kind.isForward_of_model?_eq_none hmodel] at hforward
        cases hforward
  · rintro ⟨f, hf, target, hpart⟩
    exact ⟨f, hf, (Kind.part_model_iff.1 hpart).2⟩

/-- The models whose references are resolved at the end are those that refer forward. -/
theorem exists_forward_holders (models : List Model) :
    ∃ holders : List Model, holders.Sublist models ∧
      (∀ m, m ∈ holders ↔ m ∈ models ∧ m.RefersForward) ∧
      Render.forwardModels models = holders.map Model.name := by
  refine ⟨models.filter Model.hasForward, List.filter_sublist, ?_, rfl⟩
  intro m
  rw [List.mem_filter, hasForward_iff]

/-! ## Names of models -/

theorem mem_sortedNames {names : List String} {name : String} :
    name ∈ sortedNames names ↔ name ∈ names := by
  unfold sortedNames
  rw [List.mem_mergeSort, List.mem_eraseDups]

section Draft

variable {d : Document} {s : Settings} {base : List Model} {made : List (Call × Option Model)}
  {n : Names}

namespace Drafted

/-- Models of components and containers are closed. -/
theorem closed (h : Drafted d s base made n) {m : Model}
    (hm : m ∈ allModels base made) : m.Closed d.schemas n := by
  rcases h.component_or_container hm with ⟨component, schema, -, -, hof⟩ | ⟨o, -, hcontainer⟩
  · exact hof.closed
  · exact hcontainer.closed

/-- Whatever variant is used, the model of a component has one that stands in its place. -/
theorem variantName_mem (h : Drafted d s base made n) {name : String}
    (hname : Components.Has d.schemas (.model name)) (v : Variant) :
    variantName (splitNames (allModels base made)) v name ∈
      (splitOf (allModels base made)).map Model.name := by
  apply variantName_mem_splitOf
  obtain ⟨m, hm, rfl⟩ := List.mem_map.1 (h.modelled.mem_names name hname)
  exact List.mem_map_of_mem (mem_allModels.2 (Or.inl hm))

/-- The models and enumerations of drafted fields are there. -/
theorem mem_of_kind (h : Drafted d s base made n) {m : Model}
    (hm : m ∈ splitOf (allModels base made)) {f : Field} (hf : f ∈ m.fields) :
    (∀ name, f.kind.model? = some name →
      name ∈ (splitOf (allModels base made)).map Model.name) ∧
    ∀ name, f.kind.enumeration? = some name → name ∈ n.enums.map Enumeration.name := by
  obtain ⟨b, hb, given, hgiven, v, hkind⟩ := exists_field_of_mem_splitOf hm hf
  have hclosed := h.closed hb given hgiven
  rw [hkind, Kind.model?_mapModel, Kind.enumeration?_mapModel]
  refine ⟨?_, ?_⟩
  · intro name hname
    obtain ⟨name', hname', rfl⟩ := Option.map_eq_some_iff.1 hname
    exact h.variantName_mem (hclosed.model name' hname') v
  · intro name hname
    rcases hclosed.enumeration name hname with hhas | hmem
    · exact h.modelled.mem_enums name hhas
    · exact hmem

/-- The models that a call refers to are there. -/
theorem mem_of_call (h : Drafted d s base made n) {r : Call × Option Model} (hr : r ∈ made)
    {name : String}
    (hname : name ∈ (redirectCall (splitNames (allModels base made)) r.1).models) :
    name ∈ (splitOf (allModels base made)).map Model.name := by
  obtain ⟨o, -, hcalled⟩ := exists_of_mem_right h.called hr
  rcases List.mem_append.1 hname with hname | hname
  · -- The container of the call has no directed fields, so it stays.
    have hquery : r.1.queryModel = some name := Option.mem_toList.1 hname
    rw [hcalled.queryModel_eq] at hquery
    obtain ⟨m, hm, rfl⟩ := Option.map_eq_some_iff.1 hquery
    exact name_mem_splitOf (mem_allModels.2 (Or.inr ⟨r, hr, hm⟩))
      (hcalled.container m hm).undirected
  · obtain ⟨type, htype, hmodel⟩ := List.mem_filterMap.1 hname
    obtain ⟨given, hgiven, v, rfl⟩ := exists_bodyType_of_redirectCall htype
    rw [TypeRef.model?_mapModel] at hmodel
    obtain ⟨name', hname', rfl⟩ := Option.map_eq_some_iff.1 hmodel
    exact h.variantName_mem (hcalled.bodies given hgiven name' hname') v

end Drafted

end Draft

/-! ## Built plans -/

section Built

variable {d : Document} {s : Settings} {p : TypedClient.Plan}

/-- The models and enumerations of the fields of a plan are there. -/
theorem mem_of_field (h : build d s = .ok p) {m : Model} (hm : m ∈ p.models) {f : Field}
    (hf : f ∈ m.fields) :
    (∀ name, f.kind.model? = some name → name ∈ p.models.map Model.name) ∧
      ∀ name, f.kind.enumeration? = some name → name ∈ p.enums.map Enumeration.name := by
  obtain ⟨base, made, n, hdrafted, hmodels, -, henums, -⟩ := build_eq_ok h
  rw [hmodels] at hm ⊢
  obtain ⟨i, hi⟩ := List.mem_iff_getElem?.1 hm
  obtain ⟨given, hgiven, rfl⟩ := exists_of_getElem?_orderModels hi
  obtain ⟨field, hfield, hkind⟩ := exists_field_of_markedAt hf
  obtain ⟨hmodel, henum⟩ := hdrafted.mem_of_kind hgiven hfield
  rw [hkind, Kind.model?_mapModel, Kind.enumeration?_mapModel, Option.map_id', henums]
  exact ⟨fun name hname => mem_map_name_orderModels.2 (hmodel name hname), henum⟩

/-- The models that the calls of a plan refer to are there. -/
theorem mem_of_callModels (h : build d s = .ok p) {c : Call} (hc : c ∈ p.calls) {name : String}
    (hname : name ∈ c.models) : name ∈ p.models.map Model.name := by
  obtain ⟨base, made, n, hdrafted, hmodels, hcalls, -, -⟩ := build_eq_ok h
  rw [hcalls] at hc
  obtain ⟨r, hr, rfl⟩ := List.mem_map.1 hc
  rw [hmodels]
  exact mem_map_name_orderModels.2 (hdrafted.mem_of_call hr hname)

/-- A model that is not referred to forward stands before the holder. -/
theorem exists_before (h : build d s = .ok p) {i : Nat} {m : Model} (hi : p.models[i]? = some m)
    {f : Field} (hf : f ∈ m.fields) {name : String} (hpart : Kind.Part (.model name false) f.kind) :
    ∃ j < i, ∃ target : Model, p.models[j]? = some target ∧ target.name = name := by
  have hname := (mem_of_field h (List.mem_of_getElem? hi) hf).1 name (Kind.part_model_iff.1 hpart).1
  obtain ⟨base, made, n, -, hmodels, -, -, -⟩ := build_eq_ok h
  rw [hmodels] at hi hname ⊢
  obtain ⟨j, hj, htarget⟩ :=
    exists_lt_of_isForwardAt_eq_false (forward_eq_isForwardAt hi hf hpart).symm hname
  rw [List.getElem?_map] at htarget
  obtain ⟨target, hget, htarget⟩ := Option.map_eq_some_iff.1 htarget
  exact ⟨j, hj, target, hget, htarget⟩

end Built

/-- Every plan that is built is closed. -/
theorem closed_of_build (d : Document) (s : Settings) (p : TypedClient.Plan)
    (h : build d s = .ok p) : p.Closed where
  reference_mem := fun m hm f hf name forward hpart =>
    (mem_of_field h hm hf).1 name (Kind.part_model_iff.1 hpart).1
  body_mem := by
    intro c hc type htype name hname
    apply mem_of_callModels h hc
    apply List.mem_append_right
    refine List.mem_filterMap.2 ⟨type, ?_, ?_⟩
    · rcases htype with htype | htype
      · exact List.mem_append_left _ (Option.mem_toList.2 htype)
      · exact List.mem_append_right _ (Option.mem_toList.2 htype)
    · rcases hname with rfl | rfl <;> rfl
  query_mem := fun c hc name hname =>
    mem_of_callModels h hc (List.mem_append_left _ (Option.mem_toList.2 hname))
  import_mem := by
    intro name hname
    obtain ⟨base, made, n, -, -, -, -, himports⟩ := build_eq_ok h
    rw [himports] at hname
    obtain ⟨c, hc, hname⟩ := List.mem_flatMap.1 (mem_sortedNames.1 hname)
    exact mem_of_callModels h hc hname
  enumeration_mem := fun m hm f hf name hpart =>
    (mem_of_field h hm hf).2 name (Kind.part_enumeration_iff.1 hpart)
  before := fun i m hi f hf name hpart => exists_before h hi hf hpart
  forward := exists_forward_holders p.models

/-- A reference to a component. -/
def componentReference (component : String) : Schema where
  reference := some (Naming.schemaPointer ++ component)

/-- A list of what a component describes. -/
def componentList (component : String) : Schema where
  type := some (.one "array")
  items := some (componentReference component)

/-- One of some texts. -/
def choice (texts : List String) : Schema where
  type := some (.one "string")
  enumeration := some (texts.map .string)

/-- A shop: orders and their lines refer to each other, the number of an order is only sent in
responses, and a purchase is another name for an order. -/
def shop : Document where
  version := "3.0.0"
  info := none
  servers := []
  operations := [{
    id := some "list_orders"
    path := "/orders"
    method := .get
    tags := []
    summary := none
    description := none
    deprecated := false
    parameters := [{
      name := "state", location := .query, schema := some (componentReference "state") }]
    requestBody := none
    responses := [("200", {
      content := [(OpenApi.jsonMediaType, { schema := some (componentList "order") })] })] }]
  schemas := [
    ("state", choice ["open", "paid"]),
    ("order", {
      type := some (.one "object")
      properties := some [
        ("number", { type := some (.one "integer"), readOnly := true }),
        ("lines", componentList "line")] }),
    ("line", {
      type := some (.one "object")
      properties := some [
        ("order", componentReference "purchase"), ("unit", choice ["box", "piece"])] }),
    ("purchase", componentReference "order")]

theorem closed_of_build_shop : ∃ p, build shop {} = .ok p ∧ p.Closed ∧
    p.models.map Model.name =
      ["OrderResponse", "Line", "OrderRequest", "DefaultGetListOrdersQuery"] := by
  have hbuilds : builds shop {} (fun p => p.models.map Model.name ==
      ["OrderResponse", "Line", "OrderRequest", "DefaultGetListOrdersQuery"]) = true := by
    decide +kernel
  obtain ⟨p, hp, hnames⟩ := exists_of_builds hbuilds
  exact ⟨p, hp, closed_of_build shop {} p hp, eq_of_beq hnames⟩

end TypedClient.Plan
