import TypedClient.Plan.Endpoint
import TypedClient.Plan.Imports
import TypedClient.Proofs.Plan.Components

/-!
# Calls of operations

Every operation that the filter allows gives one call (`gives_calls`). What is known of it is kept
in `Components.Called`: its function name is computed from the operation alone and claimed for
method and path, its bodies refer to models of components, and there is a container exactly if the
operation has query parameters, with a name that is computed and claimed in the same way.
-/

namespace TypedClient.Plan

open Client (Mode OperationFilter)
open OpenApi (Operation Parameter Schema)
open Claiming

/-! ## Bodies -/

section Bodies

variable {components : Components}

/-- The schema of a body refers to the model: its items name the component that stands for the model
or, if it has no items, it names that component itself or an alias that refers to the model. -/
inductive Components.BodyRefers (components : Components) : Schema → String → Prop where
  | items {s items : Schema} {reference name : String} (hitems : s.items = some items)
      (hreference : items.reference = some reference)
      (htarget : components.target reference = .ok (.model name)) : BodyRefers components s name
  | model {s : Schema} {reference name : String} (hitems : s.items = none)
      (hreference : s.reference = some reference)
      (htarget : components.target reference = .ok (.model name)) : BodyRefers components s name
  | through {s named : Schema} {reference name : String} (hitems : s.items = none)
      (hreference : s.reference = some reference)
      (htarget : components.target reference = .ok (.aliasOf named))
      (h : BodyRefers components named name) : BodyRefers components s name

namespace Components

theorem bodyRefers_iff_of_items {s items : Schema} {name : String}
    (hitems : s.items = some items) : components.BodyRefers s name ↔
      ∃ reference, items.reference = some reference ∧
        components.target reference = .ok (.model name) := by
  constructor
  · intro h
    cases h with
    | items hitems' hreference htarget =>
        rw [hitems, Option.some.injEq] at hitems'
        subst hitems'
        exact ⟨_, hreference, htarget⟩
    | model hitems' =>
        rw [hitems] at hitems'
        cases hitems'
    | through hitems' =>
        rw [hitems] at hitems'
        cases hitems'
  · rintro ⟨reference, hreference, htarget⟩
    exact BodyRefers.items hitems hreference htarget

theorem bodyRefers_iff_of_reference {s : Schema} {reference name : String}
    (hitems : s.items = none) (hreference : s.reference = some reference) :
    components.BodyRefers s name ↔ components.target reference = .ok (.model name) ∨
      ∃ named, components.target reference = .ok (.aliasOf named) ∧
        components.BodyRefers named name := by
  constructor
  · intro h
    cases h with
    | items hitems' =>
        rw [hitems] at hitems'
        cases hitems'
    | model _ hreference' htarget =>
        rw [hreference, Option.some.injEq] at hreference'
        subst hreference'
        exact Or.inl htarget
    | through _ hreference' htarget h =>
        rw [hreference, Option.some.injEq] at hreference'
        subst hreference'
        exact Or.inr ⟨_, htarget, h⟩
  · rintro (htarget | ⟨named, htarget, h⟩)
    · exact BodyRefers.model hitems hreference htarget
    · exact BodyRefers.through hitems hreference htarget h

theorem not_bodyRefers_of_plain {s : Schema} (hitems : s.items = none)
    (hreference : s.reference = none) (name : String) : ¬components.BodyRefers s name := by
  intro h
  cases h with
  | items hitems' =>
      rw [hitems] at hitems'
      cases hitems'
  | model _ hreference' =>
      rw [hreference] at hreference'
      cases hreference'
  | through _ hreference' =>
      rw [hreference] at hreference'
      cases hreference'

theorem has_of_bodyRefers {s : Schema} {name : String} (h : components.BodyRefers s name) :
    components.Has (.model name) := by
  induction h with
  | items _ _ htarget => exact has_of_target htarget
  | model _ _ htarget => exact has_of_target htarget
  | through _ _ _ _ ih => exact ih

end Components

/-- The model that a body refers to. -/
def BodyShape.model? : BodyShape → Option String
  | typed type => type.model?
  | noContent => none
  | unmatched => none

namespace BodyShape

theorem model?_request (shape : BodyShape) : shape.request.model? = shape.model? := by
  cases shape <;> rfl

theorem model?_response? (shape : BodyShape) :
    shape.response?.bind TypeRef.model? = shape.model? := by
  cases shape <;> rfl

theorem model?_ofType?_map {f : Primitive → TypeRef} (hf : ∀ p, (f p).model? = none)
    (p : Option Primitive) : (ofType? (p.map f)).model? = none := by
  cases p with
  | none => rfl
  | some p => exact hf p

end BodyShape

/-- Two steps without names succeed if each does. -/
theorem ok_of_bind {ε α β : Type} {x : Except ε α} {f : α → Except ε β} {b : β}
    (h : (x >>= f) = .ok b) : ∃ a, x = .ok a ∧ f a = .ok b := by
  cases x with
  | error e => cases h
  | ok a => exact ⟨a, rfl, h⟩

theorem model?_iff_of_listShape {items : Schema} {shape : BodyShape}
    (h : components.listShape items = .ok shape) (name : String) :
    shape.model? = some name ↔ ∃ reference, items.reference = some reference ∧
      components.target reference = .ok (.model name) := by
  unfold Components.listShape at h
  cases hreference : items.reference with
  | none =>
      rw [hreference] at h
      obtain ⟨named, hnamed, h⟩ := ok_of_bind h
      cases hnamed
      obtain ⟨p, -, h⟩ := ok_of_bind h
      cases h
      rw [BodyShape.model?_ofType?_map fun _ => rfl]
      simp
  | some reference =>
      rw [hreference] at h
      obtain ⟨named, hnamed, h⟩ := ok_of_bind h
      cases ht : components.target reference with
      | error e =>
          rw [ht] at hnamed
          cases hnamed
      | ok t =>
          rw [ht] at hnamed
          cases hnamed
          cases t with
          | model target =>
              cases h
              simp [BodyShape.model?, TypeRef.model?, ht]
          | _ =>
              obtain ⟨p, -, h⟩ := ok_of_bind h
              cases h
              rw [BodyShape.model?_ofType?_map fun _ => rfl]
              simp [ht]

theorem model?_of_plainShape {s : Schema} {shape : BodyShape}
    (h : components.plainShape s = .ok shape) : shape.model? = none := by
  unfold Components.plainShape at h
  -- What the values of a map are decides nothing here: both branches go on alike.
  split at h
  all_goals
    obtain ⟨values, -, h⟩ := ok_of_bind h
    beta_reduce at h
    split at h
    · cases h
      rfl
    · cases h
      rfl
    · split at h
      · cases h
        rfl
      · obtain ⟨p, -, h⟩ := ok_of_bind h
        cases h
        exact BodyShape.model?_ofType?_map (fun _ => rfl) p

/-- A body refers to the model that its schema refers to, however many aliases that goes through. -/
theorem model?_iff_of_bodyShapeFrom {looks : Nat} {s : Schema} {shape : BodyShape}
    (h : components.bodyShapeFrom looks s = .ok shape) (name : String) :
    shape.model? = some name ↔ components.BodyRefers s name := by
  induction looks generalizing s with
  | zero => cases h
  | succ looks ih =>
      unfold Components.bodyShapeFrom at h
      split at h
      · next items hitems =>
          rw [model?_iff_of_listShape h, Components.bodyRefers_iff_of_items hitems]
      · next reference hitems hreference =>
          rw [Components.bodyRefers_iff_of_reference hitems hreference]
          split at h
          · cases h
          · next target htarget =>
              cases h
              simp [BodyShape.model?, TypeRef.model?, htarget]
          · next target htarget =>
              cases h
              simp [BodyShape.model?, TypeRef.model?, htarget]
          · next named htarget =>
              rw [ih h, htarget]
              simp
      · next hitems hreference =>
          rw [model?_of_plainShape h]
          simp [Components.not_bodyRefers_of_plain hitems hreference]

/-- The schema of the request body, if it is sent as JSON. -/
def requestSchema? (o : Operation) : Option Schema :=
  (o.requestBody.bind (·.json?)).bind (·.schema)

/-- The schema of the response: the first one of a response that is sent as JSON. -/
def responseSchema? (o : Operation) : Option Schema :=
  (o.responsesByPrecedence.filterMap fun (_, r) => r.json?.bind (·.schema)).head?

theorem model?_iff_of_requestType {o : Operation} {body : Option TypeRef}
    (h : components.requestType o = .ok body) (name : String) :
    body.bind TypeRef.model? = some name ↔
      ∃ s, requestSchema? o = some s ∧ components.BodyRefers s name := by
  unfold Components.requestType at h
  unfold requestSchema?
  split at h
  · next hmedia =>
      cases h
      simp [hmedia]
  · next media hmedia =>
      split at h
      · next hschema =>
          cases h
          simp [hmedia, hschema, TypeRef.model?]
      · next s hschema =>
          cases hshape : components.bodyShape s with
          | error e =>
              rw [hshape] at h
              cases h
          | ok shape =>
              rw [hshape] at h
              cases h
              rw [Option.bind_some, BodyShape.model?_request,
                model?_iff_of_bodyShapeFrom hshape]
              simp [hmedia, hschema]

theorem model?_iff_of_responseType {o : Operation} {response : Option TypeRef}
    (h : components.responseType o = .ok response) (name : String) :
    response.bind TypeRef.model? = some name ↔
      ∃ s, responseSchema? o = some s ∧ components.BodyRefers s name := by
  unfold Components.responseType at h
  unfold responseSchema?
  simp only at h
  split at h
  · next hschema =>
      cases h
      simp [hschema]
  · next s hschema =>
      cases hshape : components.bodyShape s with
      | error e =>
          rw [hshape] at h
          cases h
      | ok shape =>
          rw [hshape] at h
          cases h
          rw [BodyShape.model?_response?, model?_iff_of_bodyShapeFrom hshape, hschema]
          simp

/-- The model that the type refers to stands for a component. -/
def TypeRef.Closed (components : Components) (type : TypeRef) : Prop :=
  ∀ name, type.model? = some name → components.Has (.model name)

theorem closed_of_requestType {o : Operation} {body : Option TypeRef}
    (h : components.requestType o = .ok body) : ∀ type ∈ body, type.Closed components := by
  rintro type rfl name hname
  obtain ⟨s, -, hrefers⟩ := (model?_iff_of_requestType h name).1 hname
  exact Components.has_of_bodyRefers hrefers

theorem closed_of_responseType {o : Operation} {response : Option TypeRef}
    (h : components.responseType o = .ok response) : ∀ type ∈ response, type.Closed components := by
  rintro type rfl name hname
  obtain ⟨s, -, hrefers⟩ := (model?_iff_of_responseType h name).1 hname
  exact Components.has_of_bodyRefers hrefers

end Bodies

/-! ## Containers for query parameters -/

/-- The function name of an operation. -/
def functionNameOf (o : Operation) : String :=
  Naming.functionName o.tag o.method (operationId o)

/-- The class name of the container for the query parameters of an operation. -/
def containerName (o : Operation) : String := Naming.queryModelName (functionNameOf o)

/-- What the name of a container is claimed for. -/
def queryOrigin (operationId : String) : String := "query parameters of " ++ operationId

/-- Whether the operation has a query parameter. -/
def hasQuery (o : Operation) : Bool := o.parameters.any fun p => p.location == .query

section Containers

variable {components : Components}

/-- The argument that a declared parameter gives is a field if the parameter is sent in the query.
Fields of containers go in both directions. -/
def ArgumentOf (components : Components) (p : Parameter)
    (argument : Option Components.Argument) (n : Names) : Prop :=
  (p.location = .query ↔ ∃ f, argument = some (.query f)) ∧
    ∀ f, argument = some (.query f) → f.kind.Closed components n ∧ f.visibility = .standard

theorem ArgumentOf.mono {p : Parameter} {argument : Option Components.Argument} {n next : Names}
    (h : ArgumentOf components p argument n) (hnext : n.Extends next) :
    ArgumentOf components p argument next :=
  ⟨h.1, fun f hf => ⟨(h.2 f hf).1.mono hnext, (h.2 f hf).2⟩⟩

theorem gives_queryField (queryName : String) (p : Parameter) :
    Gives components (components.queryField queryName p) fun f next =>
      f.kind.Closed components next ∧ f.visibility = .standard := by
  unfold Components.queryField
  split
  · next s _ =>
      intro n f next hn h
      obtain ⟨property, middle, hproperty, h⟩ := bind_eq_ok h
      obtain ⟨rfl, rfl⟩ := pure_eq_ok h
      obtain ⟨hgrows, hclosed⟩ := gives_property queryName p.name s n property middle hn hproperty
      exact ⟨hgrows, hclosed, rfl⟩
  · intro n f next hn h
    obtain ⟨property, middle, hproperty, h⟩ := bind_eq_ok h
    obtain ⟨rfl, rfl⟩ := pure_eq_ok hproperty
    obtain ⟨rfl, rfl⟩ := pure_eq_ok h
    exact ⟨Names.Grows.refl hn, Kind.closed_of_eq_none rfl rfl n, rfl⟩

theorem gives_argument? (queryName : String) (p : Parameter) :
    Gives components (components.argument? queryName p) (ArgumentOf components p) := by
  intro n argument next hn h
  unfold Components.argument? at h
  unfold ArgumentOf
  cases hlocation : p.location with
  | path =>
      rw [hlocation] at h
      obtain ⟨parameter, middle, hparameter, h⟩ := bind_eq_ok h
      obtain ⟨-, rfl⟩ := lift_eq_ok hparameter
      obtain ⟨rfl, rfl⟩ := pure_eq_ok h
      exact ⟨Names.Grows.refl hn, by simp, by simp⟩
  | query =>
      rw [hlocation] at h
      obtain ⟨f, middle, hfield, h⟩ := bind_eq_ok h
      obtain ⟨rfl, rfl⟩ := pure_eq_ok h
      obtain ⟨hgrows, hf⟩ := gives_queryField queryName p n f middle hn hfield
      refine ⟨hgrows, by simp, ?_⟩
      intro f' hf'
      cases hf'
      exact hf
  | _ =>
      rw [hlocation] at h
      obtain ⟨rfl, rfl⟩ := pure_eq_ok h
      exact ⟨Names.Grows.refl hn, by simp, by simp⟩

/-- The fields that the declared parameters give: there are any exactly if a parameter is sent in
the query. -/
theorem queryFields_spec {parameters : List Parameter}
    {declared : List (Option Components.Argument)} {n : Names}
    (h : List.Forall₂ (fun p a => ArgumentOf components p a n) parameters declared) :
    let fields := (declared.filterMap fun a => a).filterMap Components.Argument.query?
    (fields ≠ [] ↔ parameters.any fun p => p.location == .query) ∧
      ∀ f ∈ fields, f.kind.Closed components n ∧ f.visibility = .standard := by
  intro fields
  have hmem : ∀ f, f ∈ fields ↔ some (.query f) ∈ declared := by
    intro f
    constructor
    · intro hf
      obtain ⟨argument, hargument, hquery⟩ := List.mem_filterMap.1 hf
      obtain ⟨a, ha, rfl⟩ := List.mem_filterMap.1 hargument
      cases argument with
      | path parameter => cases hquery
      | query f' =>
          cases hquery
          exact ha
    · intro hf
      exact List.mem_filterMap.2 ⟨.query f, List.mem_filterMap.2 ⟨some (.query f), hf, rfl⟩, rfl⟩
  refine ⟨?_, ?_⟩
  · constructor
    · intro hne
      obtain ⟨f, hf⟩ := List.exists_mem_of_ne_nil fields hne
      obtain ⟨p, hp, hargument⟩ := exists_of_mem_right h ((hmem f).1 hf)
      exact List.any_eq_true.2 ⟨p, hp, by simpa using hargument.1.2 ⟨f, rfl⟩⟩
    · intro hany
      obtain ⟨p, hp, hlocation⟩ := List.any_eq_true.1 hany
      obtain ⟨a, ha, hargument⟩ := exists_of_mem_left h hp
      obtain ⟨f, rfl⟩ := hargument.1.1 (by simpa using hlocation)
      exact List.ne_nil_of_mem ((hmem f).2 ha)
  · intro f hf
    obtain ⟨p, -, hargument⟩ := exists_of_mem_right h ((hmem f).1 hf)
    exact hargument.2 f rfl

/-- Making names distinct changes nothing else. -/
theorem exists_of_mem_distinctFields {fields : List Field} {f : Field}
    (hf : f ∈ distinctFields fields) :
    ∃ given ∈ fields, f.kind = given.kind ∧ f.visibility = given.visibility := by
  obtain ⟨name, -, given, hgiven, rfl⟩ := exists_of_mem_zipWith hf
  exact ⟨given, hgiven, rfl, rfl⟩

/-- The model is the container of an operation, which has claimed its name. -/
structure Model.ContainerOf (components : Components) (o : Operation) (m : Model) (n : Names) :
    Prop where
  name_eq : m.name = containerName o
  origin_eq : m.origin = .queryParameters (operationId o)
  variant_eq : m.variant = none
  claimed : n.types.lookup m.name = some (queryOrigin (operationId o))
  undirected : m.isDirected = false
  closed : m.Closed components n

theorem Model.ContainerOf.mono {o : Operation} {m : Model} {n next : Names}
    (h : m.ContainerOf components o n) (hnext : n.Extends next) :
    m.ContainerOf components o next :=
  ⟨h.name_eq, h.origin_eq, h.variant_eq, hnext.types _ _ h.claimed, h.undirected,
    h.closed.mono hnext⟩

/-- There is a container if there are fields. -/
theorem queryModel?_spec {o : Operation} {fields : List Field} {n next : Names}
    {query : Option Model} (hn : n.Sound components)
    (hfields : ∀ f ∈ fields, f.kind.Closed components n ∧ f.visibility = .standard)
    (h : queryModel? (containerName o) (operationId o) fields n = .ok (query, next)) :
    n.Grows components next ∧ (query.isSome ↔ fields ≠ []) ∧
      ∀ m ∈ query, m.ContainerOf components o next := by
  cases fields with
  | nil =>
      obtain ⟨rfl, rfl⟩ := pure_eq_ok h
      exact ⟨Names.Grows.refl hn, by simp, by simp⟩
  | cons f fields =>
      obtain ⟨u, claimed, hclaim, h⟩ := bind_eq_ok h
      obtain ⟨rfl, rfl⟩ := pure_eq_ok h
      obtain ⟨hgrows, hlookup⟩ := Names.grows_of_claimType hn (claimType_eq_ok hclaim)
      refine ⟨hgrows, by simp, ?_⟩
      intro m hm
      rw [Option.mem_some_iff] at hm
      subst hm
      refine ⟨rfl, rfl, rfl, hlookup, ?_, ?_⟩
      · apply List.any_eq_false.2
        intro g hg
        obtain ⟨given, hgiven, -, hvisibility⟩ := exists_of_mem_distinctFields hg
        rw [hvisibility, (hfields given hgiven).2]
        decide
      · intro g hg
        obtain ⟨given, hgiven, hkind, -⟩ := exists_of_mem_distinctFields hg
        rw [hkind]
        exact (hfields given hgiven).1.mono hgrows.extended

end Containers

/-! ## Calls -/

section Calls

variable {components : Components}

/-- What is known of the call of an operation and of its container. -/
structure Components.Called (components : Components) (o : Operation)
    (r : Call × Option Model) (n : Names) : Prop where
  functionName_eq : r.1.functionName = functionNameOf o
  claimed : n.functions.lookup (functionNameOf o) = some o.endpoint
  bodies : ∀ type ∈ r.1.bodyTypes, type.Closed components
  queryModel_eq : r.1.queryModel = r.2.map Model.name
  isSome_iff : r.2.isSome ↔ hasQuery o
  container : ∀ m ∈ r.2, m.ContainerOf components o n

theorem Components.Called.mono {o : Operation} {r : Call × Option Model} {n next : Names}
    (h : components.Called o r n) (hnext : n.Extends next) : components.Called o r next :=
  ⟨h.functionName_eq, hnext.functions _ _ h.claimed, h.bodies, h.queryModel_eq, h.isSome_iff,
    fun m hm => (h.container m hm).mono hnext⟩

theorem gives_call (mode : Mode) (o : Operation) :
    Gives components (components.call mode o) (components.Called o) := by
  intro n r next hn h
  obtain ⟨u, n₁, hclaim, h⟩ := bind_eq_ok h
  obtain ⟨declared, n₂, hdeclared, h⟩ := bind_eq_ok h
  obtain ⟨query, n₃, hquery, h⟩ := bind_eq_ok h
  obtain ⟨body, n₄, hlift, h⟩ := bind_eq_ok h
  obtain ⟨response, n₅, hlift', h⟩ := bind_eq_ok h
  obtain ⟨rfl, rfl⟩ := pure_eq_ok h
  obtain ⟨hbody, rfl⟩ := lift_eq_ok hlift
  obtain ⟨hresponse, rfl⟩ := lift_eq_ok hlift'
  obtain ⟨hgrows₁, hlookup⟩ := Names.grows_of_claimFunction hn (claimFunction_eq_ok hclaim)
  obtain ⟨hgrows₂, hargs⟩ := gives_mapM (fun p _ => gives_argument? (containerName o) p)
    (fun _ _ _ _ hnext ha => ha.mono hnext) n₁ declared n₂ hgrows₁.sound hdeclared
  obtain ⟨hfields, hclosed⟩ := queryFields_spec hargs
  obtain ⟨hgrows₃, hsome, hcontainer⟩ := queryModel?_spec hgrows₂.sound hclosed hquery
  have hgrows := hgrows₂.trans hgrows₃
  refine ⟨hgrows₁.trans hgrows, ?_, hgrows.extended.functions _ _ hlookup, ?_, rfl,
    hsome.trans hfields, hcontainer⟩
  · simp only [functionNameOf]
  · intro type htype
    rcases List.mem_append.1 htype with htype | htype
    · exact closed_of_requestType hbody type (by simpa using htype)
    · exact closed_of_responseType hresponse type (by simpa using htype)

/-- Every allowed operation gives one call, and nothing that is known of it is lost later. -/
theorem gives_calls (mode : Mode) (filter : OperationFilter) (operations : List Operation) :
    Gives components (components.calls mode filter operations) fun calls next =>
      List.Forall₂ (fun o r => components.Called o r next) (allowed filter operations) calls :=
  gives_mapM (fun o _ => gives_call mode o) fun _ _ _ _ hnext hr => hr.mono hnext

end Calls

end TypedClient.Plan
