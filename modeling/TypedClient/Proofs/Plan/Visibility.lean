import TypedClient.Proofs.Plan.Placement

/-!
# Requests and responses

An object component with a property that is sent in one direction only stands for two classes, one
for requests and one for responses, and no class has its own name. The fields of the two are read
off the properties of the component; each reference leads to the class that fits its place, and
nothing mentions the original name (`SplitByDirection`). This is so for every plan that is built
(`splitByDirection_of_build`).
-/

namespace TypedClient.Plan

open Client (Settings)
open OpenApi (Document Operation Parameter Schema)
open Claiming

/-! ## What is split -/

/-- The visibility of fields that only this variant has. -/
def Variant.only : Variant → Visibility
  | .request => .writeOnly
  | .response => .readOnly

namespace Components

variable (components : Components)

/-- Some property of the object is sent in one direction only. -/
def isDirected (s : Schema) : Bool :=
  (propertiesOf s).any fun x => components.visibility x.2 != .standard

/-- The properties that are sent in the direction of a variant, in order. -/
def sentBy (v : Variant) (s : Schema) : List (String × Schema) :=
  (propertiesOf s).filter fun x =>
    components.visibility x.2 == .standard || components.visibility x.2 == v.only

/-- The names of the object components that are split. -/
def directedNames : List String :=
  components.filterMap fun (component, s) =>
    match Target.ofComponent component s with
    | .model name => if components.isDirected s then some name else none
    | _ => none

/-- The class that a reference to a model leads to, from where the variant is used. -/
def standIn (v : Variant) (name : String) : String :=
  if name ∈ components.directedNames then
    match v with
    | .request => name ++ "Request"
    | .response => name ++ "Response"
  else name

end Components

/-- The field refers to the class that stands in for the model that is referred to, if there is
one. -/
def Field.LeadsTo (components : Components) (v : Variant) (refers : String → Prop) (f : Field) :
    Prop :=
  ∀ target, f.kind.model? = some target ↔ ∃ name, refers name ∧ target = components.standIn v name

/-- The model has one field for each of the properties, in order. -/
structure Model.Sends (components : Components) (v : Variant) (xs : List (String × Schema))
    (m : Model) : Prop where
  wireNames_eq : m.fields.map Field.wireName = xs.map Prod.fst
  fields : List.Forall₂ (fun x f => f.visibility = components.visibility x.2 ∧
    f.LeadsTo components v (components.Refers x.2)) xs m.fields

/-- The classes that an object component stands for, with the fields of its properties. -/
inductive SplitInto (components : Components) (name : String) (s : Schema) : List Model → Prop
  where
  /-- All properties go in both directions: one class. -/
  | whole {m : Model} (hstandard : ∀ x ∈ propertiesOf s, components.visibility x.2 = .standard)
      (hname : m.name = name) (hvariant : m.variant = none)
      (hsends : m.Sends components .response (propertiesOf s)) : SplitInto components name s [m]
  /-- Some property goes in one direction only: a class for requests and one for responses. -/
  | halves {request response : Model}
      (hdirected : ∃ x ∈ propertiesOf s, components.visibility x.2 ≠ .standard)
      (hrequest : request.name = name ++ "Request" ∧ request.variant = some .request)
      (hsends : request.Sends components .request (components.sentBy .request s))
      (hresponse : response.name = name ++ "Response" ∧ response.variant = some .response)
      (hreturns : response.Sends components .response (components.sentBy .response s)) :
      SplitInto components name s [request, response]

/-- No property is lost, and the standard ones are those that all classes have. -/
structure Conserved (components : Components) (s : Schema) (classes : List Model) : Prop where
  union : ∀ wireName, wireName ∈ (propertiesOf s).map Prod.fst ↔
    ∃ m ∈ classes, wireName ∈ m.fields.map Field.wireName
  common : ((propertiesOf s).map Prod.fst).Nodup → ∀ wireName,
    (∀ m ∈ classes, wireName ∈ m.fields.map Field.wireName) ↔
      ∃ x ∈ propertiesOf s, x.1 = wireName ∧ components.visibility x.2 = .standard

/-- The bodies of the call are those of the operation, and they refer to the classes that stand in
for the models that their schemas refer to. -/
structure Call.LeadsTo (components : Components) (o : Operation) (c : Call) : Prop where
  body_eq : ∃ body, components.requestType o = .ok body ∧
    c.body = body.map (TypeRef.mapModel (components.standIn .request))
  response_eq : ∃ response, components.responseType o = .ok response ∧
    c.response = response.map (TypeRef.mapModel (components.standIn .response))
  body_iff : ∀ target, c.body.bind TypeRef.model? = some target ↔
    ∃ name, (∃ schema, requestSchema? o = some schema ∧ components.BodyRefers schema name) ∧
      target = components.standIn .request name
  response_iff : ∀ target, c.response.bind TypeRef.model? = some target ↔
    ∃ name, (∃ schema, responseSchema? o = some schema ∧ components.BodyRefers schema name) ∧
      target = components.standIn .response name

/-- The plan has the classes that the components and operations of the document ask for, and every
reference leads to the class that fits. -/
structure SplitByDirection (d : Document) (s : Settings) (p : TypedClient.Plan) : Prop where
  component : ∀ component schema name, (component, schema) ∈ d.schemas →
    Target.ofComponent component schema = .model name →
      ∃ classes, (p.models.filter fun m => m.origin == .component component).Perm classes ∧
        SplitInto d.schemas name schema classes ∧ Conserved d.schemas schema classes
  isComponent : ∀ m ∈ p.models, ∀ component, m.origin = .component component →
    ∃ schema name, (component, schema) ∈ d.schemas ∧
      Target.ofComponent component schema = .model name
  container : ∀ m ∈ p.models, ∀ id, m.origin = .queryParameters id →
    ∃ o ∈ allowed s.filter d.operations, operationId o = id ∧
      List.Forall₂ (fun q f => f.wireName = q.name ∧ f.visibility = .standard ∧
        f.LeadsTo d.schemas .response fun name =>
          ∃ schema, q.schema = some schema ∧ Components.Refers d.schemas schema name)
        (queryParametersOf o) m.fields
  call : List.Forall₂ (Call.LeadsTo d.schemas) (allowed s.filter d.operations) p.calls
  original : ∀ component schema name, (component, schema) ∈ d.schemas →
    Target.ofComponent component schema = .model name →
    (∃ x ∈ propertiesOf schema, Components.visibility d.schemas x.2 ≠ .standard) →
      name ∉ p.models.map Model.name ∧
      (∀ m ∈ p.models, ∀ f ∈ m.fields, f.kind.model? ≠ some name) ∧
      ∀ c ∈ p.calls, ∀ type : TypeRef, c.body = some type ∨ c.response = some type →
        type.model? ≠ some name

/-! ## Classes of a component -/

section Splits

variable {components : Components} {split : List String} {m : Model}

theorem mem_directedNames {name : String} : name ∈ components.directedNames ↔
    ∃ component s, (component, s) ∈ components ∧
      Target.ofComponent component s = .model name ∧ components.isDirected s = true := by
  unfold Components.directedNames
  rw [List.mem_filterMap]
  constructor
  · rintro ⟨⟨component, s⟩, hmem, h⟩
    refine ⟨component, s, hmem, ?_⟩
    cases htarget : Target.ofComponent component s with
    | model name' =>
        simp only [htarget] at h
        split at h
        · next hdirected =>
            cases h
            exact ⟨rfl, hdirected⟩
        · cases h
    | enumeration _ => simp [htarget] at h
    | aliasOf _ => simp [htarget] at h
  · rintro ⟨component, s, hmem, htarget, hdirected⟩
    exact ⟨(component, s), hmem, by simp [htarget, hdirected]⟩

theorem Model.Describes.isDirected_eq {component name : String} {s : Schema}
    (h : m.Describes components component name s) : m.isDirected = components.isDirected s := by
  have hmap := map_eq_map_of_forall₂ (f := fun x : String × Schema => components.visibility x.2)
    (g := Field.visibility) h.fields fun _ _ hf => hf.visibility_eq
  have hany := congrArg (fun visibilities => visibilities.any (· != .standard)) hmap
  simp only [List.any_map] at hany
  exact hany

theorem map_eq_some_iff_of_refers {f g : String → String} {refers : String → Prop}
    {model? : Option String} (hfg : f = g) (h : ∀ name, model? = some name ↔ refers name)
    (target : String) : model?.map f = some target ↔ ∃ name, refers name ∧ target = g name := by
  rw [Option.map_eq_some_iff, hfg]
  simp only [h, eq_comm]

theorem leadsTo_of_redirected {v : Variant} {refers : String → Prop} {f f' : Field}
    (hsplit : variantName split v = components.standIn v)
    (hf : ∀ name, f.kind.model? = some name ↔ refers name) (h : Field.Redirected split v f f') :
    f'.LeadsTo components v refers := by
  intro target
  rw [h.model?_eq]
  exact map_eq_some_iff_of_refers hsplit hf target

theorem bind_model?_iff {f g : String → String} {refers : String → Prop} {type : Option TypeRef}
    (hfg : f = g) (htype : ∀ name, type.bind TypeRef.model? = some name ↔ refers name)
    (target : String) : (type.map (TypeRef.mapModel f)).bind TypeRef.model? = some target ↔
      ∃ name, refers name ∧ target = g name := by
  have hmap : (type.map (TypeRef.mapModel f)).bind TypeRef.model? =
      (type.bind TypeRef.model?).map f := by
    cases type with
    | none => rfl
    | some type => exact TypeRef.model?_mapModel f type
  rw [hmap]
  exact map_eq_some_iff_of_refers hfg htype target

theorem sends_of_placed {required : List String} {xs : List (String × Schema)} {variant : Model}
    (hsplit : variantName split variant.direction = components.standIn variant.direction)
    (h : List.Forall₂ (Field.OfProperty components required) xs variant.fields)
    (hplaced : Model.Placed split variant m) :
    m.Sends components variant.direction xs where
  wireNames_eq := by
    rw [map_eq_map_of_forall₂ hplaced.fields fun _ _ hf => hf.wireName_eq,
      map_eq_map_of_forall₂ h fun _ _ hf => hf.wireName_eq]
  fields := forall₂_comp h hplaced.fields fun _ _ _ hx hf =>
    ⟨hf.visibility_eq.trans hx.visibility_eq, leadsTo_of_redirected hsplit hx.model?_iff hf⟩

theorem includes_eq (v : Variant) (visibility : Visibility) :
    v.includes visibility = (visibility == .standard || visibility == v.only) := by
  cases v <;> cases visibility <;> rfl

theorem fields_derive {component name : String} {s : Schema}
    (h : m.Describes components component name s) (v : Variant) :
    List.Forall₂ (Field.OfProperty components s.required) (components.sentBy v s)
      (m.derive v).fields :=
  forall₂_filter h.fields fun x f hx => by rw [hx.visibility_eq, includes_eq]

/-- The models in the places of the variants are the classes that the component stands for. -/
theorem splitInto_of_placed {component name : String} {s : Schema} {placed : List Model}
    (hsplit : ∀ v, variantName split v = components.standIn v)
    (h : m.Describes components component name s)
    (hplaced : List.Forall₂ (Model.Placed split) m.variants placed) :
    SplitInto components name s placed := by
  cases hdirected : m.isDirected with
  | false =>
      rw [Model.variants_of_undirected hdirected] at hplaced
      obtain _ | ⟨hm, hnil⟩ := hplaced
      cases hnil
      have hsends := sends_of_placed (hsplit _) h.fields hm
      have hdirection : m.direction = .response := by rw [Model.direction, h.variant_eq]; rfl
      rw [hdirection] at hsends
      rw [h.isDirected_eq, Components.isDirected, List.any_eq_false] at hdirected
      refine SplitInto.whole ?_ (hm.name_eq.trans h.name_eq) (hm.variant_eq.trans h.variant_eq)
        hsends
      intro x hx
      simpa using hdirected x hx
  | true =>
      rw [Model.variants_of_directed hdirected] at hplaced
      obtain _ | ⟨hrequest, hplaced⟩ := hplaced
      obtain _ | ⟨hresponse, hnil⟩ := hplaced
      cases hnil
      rw [h.isDirected_eq, Components.isDirected, List.any_eq_true] at hdirected
      obtain ⟨x, hx, hvisibility⟩ := hdirected
      refine SplitInto.halves ⟨x, hx, by simpa using hvisibility⟩ ⟨?_, hrequest.variant_eq⟩
        (sends_of_placed (hsplit _) (fields_derive h .request) hrequest)
        ⟨?_, hresponse.variant_eq⟩
        (sends_of_placed (hsplit _) (fields_derive h .response) hresponse)
      · rw [hrequest.name_eq, ← h.name_eq]
        rfl
      · rw [hresponse.name_eq, ← h.name_eq]
        rfl

theorem mem_sentBy {v : Variant} {s : Schema} {x : String × Schema} :
    x ∈ components.sentBy v s ↔ x ∈ propertiesOf s ∧
      (components.visibility x.2 = .standard ∨ components.visibility x.2 = v.only) := by
  simp [Components.sentBy]

theorem exists_mem_sentBy {s : Schema} {x : String × Schema} (hx : x ∈ propertiesOf s) :
    x ∈ components.sentBy .request s ∨ x ∈ components.sentBy .response s := by
  simp only [mem_sentBy, Variant.only]
  cases hvisibility : components.visibility x.2 <;> simp [hx]

theorem mem_of_mem_sentBy {v : Variant} {s : Schema} {x : String × Schema}
    (hx : x ∈ components.sentBy v s) : x ∈ propertiesOf s := (mem_sentBy.1 hx).1

theorem standard_of_mem_sentBy {s : Schema} {x : String × Schema}
    (hrequest : x ∈ components.sentBy .request s) (hresponse : x ∈ components.sentBy .response s) :
    components.visibility x.2 = .standard := by
  rw [mem_sentBy] at hrequest hresponse
  rcases hrequest.2 with hstandard | hwrite
  · exact hstandard
  · rcases hresponse.2 with hstandard | hread
    · exact hstandard
    · rw [hwrite] at hread
      cases hread

theorem Model.Sends.mem_wireNames {v : Variant} {xs : List (String × Schema)}
    (h : m.Sends components v xs) (wireName : String) :
    wireName ∈ m.fields.map Field.wireName ↔ ∃ x ∈ xs, x.1 = wireName := by
  rw [h.wireNames_eq, List.mem_map]

/-- Splitting conserves the properties. -/
theorem SplitInto.conserved {name : String} {s : Schema} {classes : List Model}
    (h : SplitInto components name s classes) : Conserved components s classes := by
  cases h with
  | whole hstandard _ _ hsends =>
      constructor
      · intro wireName
        rw [List.mem_map]
        simp only [List.mem_singleton, exists_eq_left, hsends.mem_wireNames]
      · intro _ wireName
        simp only [List.mem_singleton, forall_eq, hsends.mem_wireNames]
        constructor
        · rintro ⟨x, hx, hname⟩
          exact ⟨x, hx, hname, hstandard x hx⟩
        · rintro ⟨x, hx, hname, -⟩
          exact ⟨x, hx, hname⟩
  | halves _ _ hsends _ hreturns =>
      constructor
      · intro wireName
        rw [List.mem_map]
        simp only [List.mem_cons, List.not_mem_nil, or_false, exists_eq_or_imp, exists_eq_left,
          hsends.mem_wireNames, hreturns.mem_wireNames]
        constructor
        · rintro ⟨x, hx, hname⟩
          exact (exists_mem_sentBy hx).imp (fun hx => ⟨x, hx, hname⟩) fun hx => ⟨x, hx, hname⟩
        · rintro (⟨x, hx, hname⟩ | ⟨x, hx, hname⟩) <;> exact ⟨x, mem_of_mem_sentBy hx, hname⟩
      · intro hnodup wireName
        simp only [List.mem_cons, List.not_mem_nil, or_false, forall_eq_or_imp, forall_eq,
          hsends.mem_wireNames, hreturns.mem_wireNames]
        constructor
        · -- Keys are distinct, so it is one property that is sent in both directions.
          rintro ⟨⟨x, hx, hname⟩, y, hy, hname'⟩
          have hsame : x = y := List.inj_on_of_nodup_map hnodup (mem_of_mem_sentBy hx)
            (mem_of_mem_sentBy hy) (hname.trans hname'.symm)
          exact ⟨x, mem_of_mem_sentBy hx, hname, standard_of_mem_sentBy hx (hsame ▸ hy)⟩
        · rintro ⟨x, hx, hname, hstandard⟩
          exact ⟨⟨x, mem_sentBy.2 ⟨hx, Or.inl hstandard⟩, hname⟩, x,
            mem_sentBy.2 ⟨hx, Or.inl hstandard⟩, hname⟩

end Splits

/-! ## Drafts -/

section Drafts

variable {d : Document} {s : Settings} {base : List Model} {made : List (Call × Option Model)}
  {n : Names}

namespace Drafted

theorem mem_splitNames_iff (h : Drafted d s base made n) {name : String} :
    name ∈ splitNames (allModels base made) ↔ name ∈ Components.directedNames d.schemas := by
  rw [mem_splitNames, mem_directedNames]
  constructor
  · rintro ⟨m, hm, hdirected, rfl⟩
    rcases h.describes_or_collects hm with
      ⟨component, schema, hmem, htarget, hdescribes⟩ | ⟨o, -, hcollects⟩
    · exact ⟨component, schema, hmem, htarget, hdescribes.isDirected_eq ▸ hdirected⟩
    · rw [hcollects.isDirected_eq] at hdirected
      cases hdirected
  · rintro ⟨component, schema, hmem, htarget, hdirected⟩
    obtain ⟨m, hm, hdescribes⟩ :=
      (describes_of_yields_models h.modelsYielded).2 component schema name hmem htarget
    exact ⟨m, mem_allModels.2 (Or.inl hm), hdescribes.isDirected_eq ▸ hdirected,
      hdescribes.name_eq⟩

/-- References are redirected to the classes that stand in. -/
theorem variantName_eq (h : Drafted d s base made n) (v : Variant) :
    variantName (splitNames (allModels base made)) v = Components.standIn d.schemas v := by
  funext name
  unfold Components.standIn
  split
  · next hmem =>
      rw [variantName_of_mem (h.mem_splitNames_iff.2 hmem)]
      cases v <;> rfl
  · next hmem => rw [variantName_of_not_mem fun hsplit => hmem (h.mem_splitNames_iff.1 hsplit)]

/-- No class has the name of a model that is split. -/
theorem not_mem_of_directed (h : Drafted d s base made n) (hkeys : (d.schemas.map Prod.fst).Nodup)
    {name : String} (hname : name ∈ Components.directedNames d.schemas) :
    name ∉ (splitOf (allModels base made)).map Model.name := by
  obtain ⟨component, schema, hmem, htarget, hdirected⟩ := mem_directedNames.1 hname
  obtain ⟨m, hm, hdescribes⟩ :=
    (describes_of_yields_models h.modelsYielded).2 component schema name hmem htarget
  rw [← hdescribes.isDirected_eq] at hdirected
  rw [map_name_splitOf_eq_claims]
  intro hclaimed
  obtain ⟨c, hc, hcname⟩ := List.mem_map.1 hclaimed
  obtain ⟨m', hm', hc⟩ := List.mem_flatMap.1 hc
  -- The name is claimed for the component, so no other class can have it.
  have hholder : c.2 = .component component := by
    obtain ⟨component', -, -, -, hof⟩ := h.modelled.ofComponent m hm
    have horigin := hof.origin_eq
    rw [hdescribes.origin_eq] at horigin
    cases horigin
    have hlookup := h.lookup_of_mem_claims hm' hc
    rw [hcname, ← hdescribes.name_eq, hof.claimed] at hlookup
    exact Holder.text_inj (Option.some.inj hlookup).symm
  cases hdirected' : m'.isDirected with
  | true =>
      rw [claims_of_directed hdirected'] at hc
      rcases List.mem_cons.1 hc with rfl | hc
      · cases hholder
      · rw [List.mem_singleton.1 hc] at hholder
        cases hholder
  | false =>
      rw [claims_of_undirected hdirected'] at hc
      rw [List.mem_singleton.1 hc] at hholder hcname
      have hm' : m' ∈ base := by
        rcases mem_allModels.1 hm' with hm' | ⟨r, hr, hquery⟩
        · exact hm'
        · obtain ⟨o, -, hcalled⟩ := exists_of_mem_right h.called hr
          rw [(hcalled.container m' hquery).origin_eq] at hholder
          cases hholder
      have hsame : m' = m := h.eq_of_name_eq hkeys hm' hm (hcname.trans hdescribes.name_eq.symm)
      rw [hsame, hdirected] at hdirected'
      cases hdirected'

theorem container_of_mem (h : Drafted d s base made n) {m : Model}
    (hm : m ∈ orderModels (splitOf (allModels base made))) {id : String}
    (horigin : m.origin = .queryParameters id) :
    ∃ o ∈ allowed s.filter d.operations, operationId o = id ∧
      List.Forall₂ (fun q f => f.wireName = q.name ∧ f.visibility = .standard ∧
        f.LeadsTo d.schemas .response fun name =>
          ∃ schema, q.schema = some schema ∧ Components.Refers d.schemas schema name)
        (queryParametersOf o) m.fields := by
  obtain ⟨o, ho, hid, drafted, hcollects, hplaced⟩ :=
    h.exists_placed_of_queryParameters hm horigin
  refine ⟨o, ho, hid, forall₂_comp hcollects.fields hplaced.fields ?_⟩
  intro q f f' hq hf
  have hdirection : drafted.direction = .response := by
    rw [Model.direction, hcollects.variant_eq]
    rfl
  rw [hdirection] at hf
  exact ⟨hf.wireName_eq.trans hq.wireName_eq, hf.visibility_eq.trans hq.visibility_eq,
    leadsTo_of_redirected (h.variantName_eq .response) hq.model?_iff hf⟩

theorem calls_leadTo (h : Drafted d s base made n) :
    List.Forall₂ (Call.LeadsTo d.schemas) (allowed s.filter d.operations)
      (made.map fun r => redirectCall (splitNames (allModels base made)) r.1) := by
  rw [List.forall₂_map_right_iff]
  refine (forall₂_of_yields_mapM h.callsYielded).imp ?_
  intro o r hr
  obtain ⟨hbody, hresponse, -⟩ := collects_of_yields_call hr
  have hsplit := h.variantName_eq
  refine ⟨⟨r.1.body, hbody, ?_⟩, ⟨r.1.response, hresponse, ?_⟩, ?_, ?_⟩
  · rw [← hsplit]
    rfl
  · rw [← hsplit]
    rfl
  · exact bind_model?_iff (hsplit .request) (model?_iff_of_requestType hbody)
  · exact bind_model?_iff (hsplit .response) (model?_iff_of_responseType hresponse)

end Drafted

end Drafts

/-! ## Built plans -/

section Built

variable {d : Document} {s : Settings} {p : TypedClient.Plan}

theorem model?_mem_models {c : Call} {type : TypeRef} {name : String}
    (htype : c.body = some type ∨ c.response = some type) (hname : type.model? = some name) :
    name ∈ c.models := by
  apply List.mem_append_right
  refine List.mem_filterMap.2 ⟨type, ?_, hname⟩
  rcases htype with htype | htype
  · exact List.mem_append_left _ (Option.mem_toList.2 htype)
  · exact List.mem_append_right _ (Option.mem_toList.2 htype)

/-- Components are the members of an object, so their names are distinct. Then every plan that is
built is split by direction. -/
theorem splitByDirection_of_build (d : Document) (s : Settings) (p : TypedClient.Plan)
    (hkeys : (d.schemas.map Prod.fst).Nodup) (h : build d s = .ok p) : SplitByDirection d s p := by
  obtain ⟨base, made, n, hdrafted, hmodels, hcalls, -, -⟩ := build_eq_ok h
  refine ⟨?_, ?_, ?_, ?_, ?_⟩
  · intro component schema name hmem htarget
    obtain ⟨m, placed, hdescribes, hperm, hplaced⟩ :=
      hdrafted.exists_placed_component hkeys hmem htarget
    have hinto := splitInto_of_placed hdrafted.variantName_eq hdescribes hplaced
    rw [hmodels]
    exact ⟨placed, hperm.symm, hinto, hinto.conserved⟩
  · intro m hm component horigin
    rw [hmodels] at hm
    obtain ⟨drafted, schema, hschema, htarget, -⟩ :=
      hdrafted.exists_placed_of_component hm horigin
    exact ⟨schema, drafted.name, hschema, htarget⟩
  · intro m hm id horigin
    rw [hmodels] at hm
    exact hdrafted.container_of_mem hm horigin
  · rw [hcalls]
    exact hdrafted.calls_leadTo
  · intro component schema name hmem htarget ⟨x, hx, hdirected⟩
    have hnames : name ∉ p.models.map Model.name := by
      rw [hmodels, mem_map_name_orderModels]
      refine hdrafted.not_mem_of_directed hkeys (mem_directedNames.2
        ⟨component, schema, hmem, htarget, ?_⟩)
      rw [Components.isDirected, List.any_eq_true]
      exact ⟨x, hx, by simpa using hdirected⟩
    refine ⟨hnames, ?_, ?_⟩
    · intro m hm f hf hmodel
      exact hnames ((mem_of_field h hm hf).1 name hmodel)
    · intro c hc type htype hmodel
      exact hnames (mem_of_callModels h hc (model?_mem_models htype hmodel))

end Built

theorem splitByDirection_of_build_shop : (shop.schemas.map Prod.fst).Nodup ∧
    Components.directedNames shop.schemas = ["Order"] ∧ ∃ p, build shop {} = .ok p ∧
      SplitByDirection shop {} p ∧
      p.models.map (fun m => (m.name, m.references)) =
        [("OrderResponse", ["Line"]), ("Line", ["OrderResponse"]), ("OrderRequest", ["Line"]),
          ("DefaultGetListOrdersQuery", [])] := by
  have hkeys : (shop.schemas.map Prod.fst).Nodup := by decide
  have hbuilds : builds shop {} (fun p => p.models.map (fun m => (m.name, m.references)) ==
      [("OrderResponse", ["Line"]), ("Line", ["OrderResponse"]), ("OrderRequest", ["Line"]),
        ("DefaultGetListOrdersQuery", [])]) = true := by
    decide +kernel
  obtain ⟨p, hp, hreferences⟩ := exists_of_builds hbuilds
  exact ⟨hkeys, by decide +kernel, p, hp, splitByDirection_of_build shop {} p hkeys hp,
    eq_of_beq hreferences⟩

end TypedClient.Plan
