import TypedClient.Proofs.Order.Extension
import TypedClient.Proofs.Plan.Closure
import TypedClient.Proofs.Plan.Operations
import TypedClient.Proofs.Plan.Placement

/-!
# Plans that include different operations

Which operations a plan includes does not show in anything but its calls, their containers and the
enumerations that these declare. No component refers to a container, so the models of the components
come first and are marked as if there were no containers (`Drafted.orderModels_eq`), and the call of
an operation is the same in every plan that includes it. Two plans of one document that differ in
nothing but the filter therefore extend one common part (`exists_common_of_build`).
-/

namespace TypedClient.Plan

open Client (Mode OperationFilter Settings)
open OpenApi (Document Operation)
open Claiming

/-! ## What plans have in common -/

/-- What the plans of a document have in common, whatever operations they include: the models of the
components, the enumerations that these declare, and the call that an operation has wherever it is
included. -/
structure Common where
  models : List Model
  enums : List Enumeration
  call? : Operation → Option Call

/-- The models come from components, and the enumerations are those that are there once all
components have been declared. -/
structure Common.OfComponents (common : Common) (d : Document) : Prop where
  isComponent : ∀ m ∈ common.models, m.origin.isComponent = true
  enums_eq : ∃ base declared, (Components.models d.schemas).run {} = .ok (base, declared) ∧
    common.enums = declared.enums

/-- The call has what the operation says of itself. -/
structure Call.StandsFor (o : Operation) (c : Call) : Prop where
  operationId_eq : c.operationId = Plan.operationId o
  functionName_eq : c.functionName = functionNameOf o
  method_eq : c.method = o.method
  tag_eq : c.tag = o.tag
  summary_eq : c.summary = summary? o
  deprecated_eq : c.deprecated = o.deprecated

/-- The plan consists of the common part and of what the included operations add: containers behind
the models of the components, further enumerations, and a call for each operation. -/
structure Common.Within (common : Common) (included : List Operation) (p : TypedClient.Plan) :
    Prop where
  models : ∃ containers, p.models = common.models ++ containers ∧
    containers.map (fun m => (m.name, m.origin)) =
      (included.filter hasQuery).map fun o => (containerName o, .queryParameters (operationId o))
  enums : common.enums <+: p.enums
  calls : List.Forall₂ (fun o c => common.call? o = some c ∧ c.StandsFor o) included p.calls

/-! ## Models of components and containers -/

section Drafts

variable {d : Document} {s : Settings} {base : List Model} {made : List (Call × Option Model)}
  {n : Names}

/-- The containers of the calls. -/
def containersOf (made : List (Call × Option Model)) : List Model := made.filterMap Prod.snd

namespace Drafted

theorem containerOf_of_mem (h : Drafted d s base made n) {m : Model} (hm : m ∈ containersOf made) :
    ∃ o, m.ContainerOf d.schemas o n := by
  obtain ⟨r, hr, hquery⟩ := List.mem_filterMap.1 hm
  obtain ⟨o, -, hcalled⟩ := exists_of_mem_right h.called hr
  exact ⟨o, hcalled.container m hquery⟩

theorem splitNames_eq (h : Drafted d s base made n) :
    splitNames (allModels base made) = splitNames base := by
  have hnil : (containersOf made).filter Model.isDirected = [] := by
    rw [List.filter_eq_nil_iff]
    intro m hm
    obtain ⟨o, hcontainer⟩ := h.containerOf_of_mem hm
    simp [hcontainer.undirected]
  have hall : allModels base made = base ++ containersOf made := rfl
  rw [splitNames, hall, List.filter_append, hnil, List.append_nil, splitNames]

theorem splitOf_eq (h : Drafted d s base made n) :
    splitOf (allModels base made) =
      splitOf base ++ (containersOf made).map (redirectModel (splitNames base)) := by
  have hvariants : (containersOf made).flatMap Model.variants = containersOf made := by
    rw [List.flatMap_congr (g := fun m => [m]) fun m hm => ?_, List.flatMap_singleton']
    obtain ⟨o, hcontainer⟩ := h.containerOf_of_mem hm
    exact Model.variants_of_undirected hcontainer.undirected
  have hall : allModels base made = base ++ containersOf made := rfl
  rw [splitOf, h.splitNames_eq, hall, List.flatMap_append, hvariants, List.map_append, splitOf]

/-- Every reference of a drafted model is one to a class of a component. -/
theorem mem_splitOf_of_reference (h : Drafted d s base made n) {m : Model}
    (hm : m ∈ splitOf (allModels base made)) {name : String} (hname : name ∈ m.references) :
    name ∈ (splitOf base).map Model.name := by
  obtain ⟨f, hf, hname⟩ := List.mem_filterMap.1 hname
  obtain ⟨b, hb, given, hgiven, v, hkind⟩ := exists_field_of_mem_splitOf hm hf
  rw [hkind, Kind.model?_mapModel, h.splitNames_eq] at hname
  obtain ⟨name', hname', rfl⟩ := Option.map_eq_some_iff.1 hname
  have hhas := (h.closed hb given hgiven).model name' hname'
  exact variantName_mem_splitOf (h.modelled.mem_names name' hhas) v

theorem disjoint_containers (h : Drafted d s base made n) :
    ((splitOf base).map Model.name).Disjoint ((containersOf made).map Model.name) := by
  -- one name has one holder, and the holder tells a component from an operation
  intro name hname hname'
  rw [map_name_splitOf_eq_claims] at hname
  obtain ⟨c, hc, rfl⟩ := List.mem_map.1 hname
  obtain ⟨m, hm, hc⟩ := List.mem_flatMap.1 hc
  obtain ⟨container, hcontainer, heq⟩ := List.mem_map.1 hname'
  obtain ⟨o, hof⟩ := h.containerOf_of_mem hcontainer
  have hlookup := h.lookup_of_mem_claims (mem_allModels.2 (Or.inl hm)) hc
  rw [← heq, hof.claimed] at hlookup
  have hholder : Holder.container (operationId o) = c.2 :=
    Holder.text_inj (Option.some.inj hlookup)
  obtain ⟨component, schema, -, -, hcomponent⟩ := h.modelled.ofComponent m hm
  rcases holder_of_mem_claims hc with hmodel | ⟨v, hmodel⟩
  · rw [← hholder, hcomponent.origin_eq] at hmodel
    cases hmodel
  · rw [← hholder] at hmodel
    cases hmodel

/-- The models of the components come first, as if there were no containers. -/
theorem orderModels_eq (h : Drafted d s base made n) :
    orderModels (splitOf (allModels base made)) = orderModels (splitOf base) ++
      (((containersOf made).map (redirectModel (splitNames base))).zipIdx
        (splitOf base).length).map fun m => m.1.unmarkedAt m.2 := by
  rw [h.splitOf_eq]
  apply orderModels_append
  intro m hm name hname hcontainer
  rw [← h.splitOf_eq] at hm
  rw [List.map_map] at hcontainer
  exact h.disjoint_containers (h.mem_splitOf_of_reference hm hname) hcontainer

/-- Every class of a component comes from it. -/
theorem isComponent_of_mem (h : Drafted d s base made n) {m : Model}
    (hm : m ∈ orderModels (splitOf base)) : m.origin.isComponent = true := by
  obtain ⟨i, hi⟩ := List.mem_iff_getElem?.1 hm
  obtain ⟨given, hgiven, rfl⟩ := exists_of_getElem?_orderModels hi
  obtain ⟨variant, hvariant, rfl⟩ := List.mem_map.1 hgiven
  obtain ⟨b, hb, hvariant⟩ := List.mem_flatMap.1 hvariant
  obtain ⟨component, schema, -, -, hof⟩ := h.modelled.ofComponent b hb
  change variant.origin.isComponent = true
  rw [origin_of_mem_variants hvariant, hof.origin_eq]
  rfl

end Drafted

/-- Every operation with query parameters has one container, in the order of the operations. -/
theorem map_containersOf {components : Components} {operations : List Operation}
    (h : List.Forall₂ (fun o r => components.Called o r n) operations made) :
    (containersOf made).map (fun m => (m.name, m.origin)) =
      (operations.filter hasQuery).map fun o =>
        (containerName o, .queryParameters (operationId o)) := by
  induction h with
  | nil => rfl
  | @cons o r operations made hr _ ih =>
      obtain ⟨c, query⟩ := r
      cases query with
      | none =>
          have hquery : hasQuery o = false := by simpa using hr.isSome_iff
          rw [List.filter_cons_of_neg (by simp [hquery])]
          exact ih
      | some m =>
          have hquery : hasQuery o = true := hr.isSome_iff.1 rfl
          have hm := hr.container m rfl
          rw [List.filter_cons_of_pos hquery, List.map_cons, ← ih, ← hm.name_eq, ← hm.origin_eq]
          rfl

end Drafts

/-! ## Calls -/

section Calls

variable {components : Components} {mode : Mode} {o : Operation} {r : Call × Option Model}

open Classical in
/-- The call of an operation, if there is any. At most one is made (`call_unique`), whatever names
are given before. -/
noncomputable def Components.call? (components : Components) (mode : Mode) (o : Operation) :
    Option Call :=
  if h : ∃ r, Yields (components.call mode o) r then some h.choose.1 else none

theorem call?_eq_some (h : Yields (components.call mode o) r) :
    components.call? mode o = some r.1 := by
  have hex : ∃ r, Yields (components.call mode o) r := ⟨r, h⟩
  rw [Components.call?, dif_pos hex, call_unique hex.choose_spec h]

theorem standsFor_of_yields (h : Yields (components.call mode o) r) (split : List String) :
    (redirectCall split r.1).StandsFor o := by
  obtain ⟨declared, body, response, -, -, -, heq⟩ := exists_callOf_of_yields h
  rw [heq]
  constructor <;> simp only [redirectCall, callOf]

end Calls

/-! ## Plans -/

/-- What the plans of a document have in common, from the models of the components and the names
that are given with them. -/
noncomputable def Common.of (d : Document) (mode : Mode) (base : List Model) (declared : Names) :
    Common where
  models := orderModels (splitOf base)
  enums := declared.enums
  call? := fun o => (Components.call? d.schemas mode o).map (redirectCall (splitNames base))

theorem exists_common_within {d : Document} {s : Settings} {p : TypedClient.Plan}
    (h : build d s = .ok p) : ∃ base declared,
      (Components.models d.schemas).run {} = .ok (base, declared) ∧
      (∀ m ∈ orderModels (splitOf base), m.origin.isComponent = true) ∧
      (Common.of d s.mode base declared).Within (allowed s.filter d.operations) p := by
  obtain ⟨base, made, n, hdrafted, hmodels, hcalls, henums, -⟩ := build_eq_ok h
  obtain ⟨declared, hrun, hprefix⟩ := hdrafted.modelsFirst
  refine ⟨base, declared, hrun, fun m hm => hdrafted.isComponent_of_mem hm, ?_, ?_, ?_⟩
  · refine ⟨_, hmodels.trans hdrafted.orderModels_eq, ?_⟩
    rw [← map_containersOf hdrafted.called, List.map_map]
    have hfst := congrArg (List.map fun m : Model => (m.name, m.origin))
      (List.zipIdx_map_fst (splitOf base).length
        ((containersOf made).map (redirectModel (splitNames base))))
    rw [List.map_map, List.map_map] at hfst
    exact hfst
  · rw [henums]
    exact hprefix
  · rw [hcalls, List.forall₂_map_right_iff]
    refine (forall₂_of_yields_mapM hdrafted.callsYielded).imp ?_
    intro o r hr
    rw [hdrafted.splitNames_eq]
    refine ⟨?_, standsFor_of_yields hr _⟩
    change ((Components.call? d.schemas s.mode o).map _) = _
    rw [call?_eq_some hr, Option.map_some]

/-- Two plans of one document with the same settings apart from the filter have one common part: the
models of the components, at the same positions and with the same marks, the enumerations of the
components, and the calls of the operations that both include. -/
theorem exists_common_of_build (d : Document) (s : Settings) (filter filter' : OperationFilter)
    (p p' : TypedClient.Plan) (h : build d { s with filter := filter } = .ok p)
    (h' : build d { s with filter := filter' } = .ok p') :
    ∃ common : Common, common.OfComponents d ∧
      common.Within (allowed filter d.operations) p ∧
      common.Within (allowed filter' d.operations) p' := by
  obtain ⟨base, declared, hrun, hcomponent, hwithin⟩ := exists_common_within h
  obtain ⟨base', declared', hrun', -, hwithin'⟩ := exists_common_within h'
  rw [hrun] at hrun'
  cases hrun'
  exact ⟨_, ⟨hcomponent, base, declared, hrun, rfl⟩, hwithin, hwithin'⟩

/-- A shop with and without the operation that lists its orders. -/
theorem exists_common_of_build_shop : ∃ p p',
    build shop { filter := {} } = .ok p ∧
    build shop { filter := { excluded := ["list_orders"] } } = .ok p' ∧
    p.models.map Model.name =
      ["OrderResponse", "Line", "OrderRequest", "DefaultGetListOrdersQuery"] ∧
    p'.models.map Model.name = ["OrderResponse", "Line", "OrderRequest"] ∧
    ∃ common : Common, common.OfComponents shop ∧
      common.Within (allowed {} shop.operations) p ∧
      common.Within (allowed { excluded := ["list_orders"] } shop.operations) p' := by
  have hall : builds shop { filter := {} } (fun p => p.models.map Model.name ==
      ["OrderResponse", "Line", "OrderRequest", "DefaultGetListOrdersQuery"]) = true := by
    decide +kernel
  have hfew : builds shop { filter := { excluded := ["list_orders"] } } (fun p =>
      p.models.map Model.name == ["OrderResponse", "Line", "OrderRequest"]) = true := by
    decide +kernel
  obtain ⟨p, hp, hnames⟩ := exists_of_builds hall
  obtain ⟨p', hp', hnames'⟩ := exists_of_builds hfew
  exact ⟨p, p', hp, hp', eq_of_beq hnames, eq_of_beq hnames',
    exists_common_of_build shop {} {} { excluded := ["list_orders"] } p p' hp hp'⟩

end TypedClient.Plan
