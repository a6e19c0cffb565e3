import TypedClient.Proofs.Lexical.FreshNames
import TypedClient.Proofs.Plan.Calls

/-!
# Fields of models

What the field of a property says is read off the schemas of the document: whether null is a value,
in which direction the field is sent (`Components.nullable`, `Components.visibility`), and to which
model it refers, through lists and aliases (`Components.Refers`). The model of a component has one
such field for each property, in order (`Model.Describes`), and a container one for each query
parameter (`Model.Collects`), whatever names have been given before.
-/

namespace TypedClient.Plan

open Client (Mode)
open OpenApi (Operation Parameter Schema)
open Claiming

/-! ## Properties -/

namespace Components

variable (components : Components)

/-- The schema that a reference names directly. -/
def named? (s : Schema) : Option Schema :=
  match s.reference with
  | some reference => ((components.find reference).toOption).map Prod.snd
  | none => none

/-- Whether null is a value of the property. -/
def nullable (s : Schema) : Bool :=
  s.isNullable || (components.named? s).any Schema.isNullable

/-- In which direction the property is sent. -/
def visibility (s : Schema) : Visibility :=
  .ofFlags (s.readOnly || (components.named? s).any Schema.readOnly)
    (s.writeOnly || (components.named? s).any Schema.writeOnly)

/-- The schema refers to the model of this name: it names the component that stands for the model,
or an alias that does, or its items do. -/
inductive Refers : Schema → String → Prop where
  | model {s : Schema} {reference name : String} (hreference : s.reference = some reference)
      (htarget : components.target reference = .ok (.model name)) : Refers s name
  | through {s named : Schema} {reference name : String} (hreference : s.reference = some reference)
      (htarget : components.target reference = .ok (.aliasOf named)) (h : Refers named name) :
      Refers s name
  | items {s items : Schema} {name : String} (hreference : s.reference = none)
      (htype : s.primaryType? = some "array") (hitems : s.items = some items)
      (h : Refers items name) : Refers s name

variable {components}

theorem refers_iff_of_reference {s : Schema} {reference name : String}
    (hreference : s.reference = some reference) : components.Refers s name ↔
      components.target reference = .ok (.model name) ∨
        ∃ named, components.target reference = .ok (.aliasOf named) ∧
          components.Refers named name := by
  constructor
  · intro h
    cases h with
    | model hreference' htarget =>
        rw [hreference, Option.some.injEq] at hreference'
        subst hreference'
        exact Or.inl htarget
    | through hreference' htarget h =>
        rw [hreference, Option.some.injEq] at hreference'
        subst hreference'
        exact Or.inr ⟨_, htarget, h⟩
    | items hreference' =>
        rw [hreference] at hreference'
        cases hreference'
  · rintro (htarget | ⟨named, htarget, h⟩)
    · exact Refers.model hreference htarget
    · exact Refers.through hreference htarget h

theorem refers_iff_of_no_reference {s : Schema} {name : String} (hreference : s.reference = none) :
    components.Refers s name ↔ s.primaryType? = some "array" ∧
      ∃ items, s.items = some items ∧ components.Refers items name := by
  constructor
  · intro h
    cases h with
    | model hreference' =>
        rw [hreference] at hreference'
        cases hreference'
    | through hreference' =>
        rw [hreference] at hreference'
        cases hreference'
    | items _ htype hitems h => exact ⟨htype, _, hitems, h⟩
  · rintro ⟨htype, items, hitems, h⟩
    exact Refers.items hreference htype hitems h

/-- What a reference stands for refers to the model, or is the model. -/
def RefersBy (components : Components) (reference name : String) : Prop :=
  components.target reference = .ok (.model name) ∨
    ∃ named, components.target reference = .ok (.aliasOf named) ∧ components.Refers named name

end Components

section Kinds

variable {components : Components} {owner field : String}

theorem model?_eq_none_of_textKind {s : Schema} {kind : Kind}
    (h : Yields (textKind owner field s) kind) : kind.model? = none := by
  unfold textKind at h
  split at h
  · rw [← eq_of_yields_pure h]
    rfl
  · split at h
    · rw [← eq_of_yields_pure h]
      rfl
    · split at h
      · rw [← eq_of_yields_pure h]
        rfl
      · obtain ⟨name, -, h⟩ := exists_yields_of_bind h
        rw [← eq_of_yields_pure h]
        rfl

theorem model?_eq_none_of_tokenKind {token : String} {s : Schema} {kind : Kind}
    (h : tokenKind owner field token s = .ok kind) : kind.model? = none := by
  unfold tokenKind at h
  split at h
  · cases h
    rfl
  · split at h
    · cases h
      rfl
    · split at h
      · cases h
        rfl
      · cases h

/-- Only lists refer to models without being references. -/
theorem not_refers_of_primaryType?_ne {s : Schema} (hs : s.reference = none)
    (h : s.primaryType? ≠ some "array") (name : String) : ¬components.Refers s name := by
  rw [Components.refers_iff_of_no_reference hs]
  exact fun hrefers => h hrefers.1

theorem refers_iff_items {s items : Schema} {name : String} (hs : s.reference = none)
    (htype : s.primaryType? = some "array") (hitems : s.items = some items) :
    components.Refers s name ↔ components.Refers items name := by
  rw [Components.refers_iff_of_no_reference hs]
  constructor
  · rintro ⟨-, items', hitems', h⟩
    rw [hitems, Option.some.injEq] at hitems'
    rwa [hitems']
  · exact fun h => ⟨htype, items, hitems, h⟩

theorem primaryType?_of_getD {s : Schema} {type : OpenApi.TypeDecl} (htype : s.type = some type)
    (harray : type.primary?.getD "null" = "array") : s.primaryType? = some "array" := by
  rw [Schema.primaryType?, htype, Option.bind_some]
  cases h : type.primary? with
  | none =>
      rw [h] at harray
      exact absurd harray (by decide)
  | some token =>
      rw [h] at harray
      rw [← harray, Option.getD_some]

theorem exists_type_of_primaryType? {s : Schema} {token : String}
    (h : s.primaryType? = some token) : ∃ type, s.type = some type ∧ type.primary? = some token :=
  Option.bind_eq_some_iff.1 h

/-- The kind of an array is that of its items, in a list. -/
theorem inlineKind_of_array {follow : String → Claiming Kind} {s items : Schema}
    (htype : s.primaryType? = some "array") (hitems : s.items = some items) :
    inlineKind follow owner field s =
      match items.reference, items.type with
      | some reference, _ => .list <$> follow reference
      | none, none => pure (.list .unknown)
      | none, some _ => .list <$> inlineKind follow owner field items := by
  obtain ⟨type, hdecl, harray⟩ := exists_type_of_primaryType? htype
  rw [inlineKind]
  simp only [hdecl, harray, Option.getD_some]
  split
  · next hnone =>
      rw [hitems] at hnone
      cases hnone
  · next items' hitems' =>
      rw [hitems, Option.some.injEq] at hitems'
      subst hitems'
      rfl

/-- The kind of a schema that is no reference refers to the model that the schema refers to, if the
kinds of references do. -/
theorem model?_iff_of_inlineKind {follow : String → Claiming Kind}
    (hfollow : ∀ reference kind, Yields (follow reference) kind → ∀ name,
      kind.model? = some name ↔ components.RefersBy reference name)
    {s : Schema} {kind : Kind} (hs : s.reference = none)
    (h : Yields (inlineKind follow owner field s) kind) (name : String) :
    kind.model? = some name ↔ components.Refers s name := by
  -- The induction follows the nesting of lists. References among items are left to `follow`, and a
  -- schema that is no list refers to nothing.
  fun_induction inlineKind follow owner field s generalizing kind with
  | case1 s => exact absurd h not_yields_throw
  | case2 s type htype hstring =>
      have hne : s.primaryType? ≠ some "array" := by
        rw [Schema.primaryType?, htype, Option.bind_some]
        intro harray
        rw [harray] at hstring
        exact absurd hstring (by decide)
      rw [model?_eq_none_of_textKind h]
      simp [not_refers_of_primaryType?_ne hs hne]
  | case3 s type htype harray hitems =>
      rw [← eq_of_yields_pure h, Components.refers_iff_of_no_reference hs]
      simp [Kind.model?, hitems]
  | case4 s type htype harray items hitems reference hreference =>
      obtain ⟨kind, hkind, rfl⟩ := exists_yields_of_map h
      rw [refers_iff_items hs (primaryType?_of_getD htype harray) hitems,
        Components.refers_iff_of_reference hreference]
      exact hfollow reference kind hkind name
  | case5 s type htype harray items hitems hnone hreference =>
      rw [← eq_of_yields_pure h, refers_iff_items hs (primaryType?_of_getD htype harray) hitems]
      have hne : items.primaryType? ≠ some "array" := by
        rw [Schema.primaryType?, hnone]
        simp
      simp [Kind.model?, not_refers_of_primaryType?_ne hreference hne]
  | case6 s type htype harray items hitems itemType hitemType hreference ih =>
      obtain ⟨kind, hkind, rfl⟩ := exists_yields_of_map h
      rw [Kind.model?_list, refers_iff_items hs (primaryType?_of_getD htype harray) hitems]
      exact ih hreference hkind
  | case7 s type htype _ hne =>
      have hne : s.primaryType? ≠ some "array" := by
        rw [Schema.primaryType?, htype, Option.bind_some]
        intro harray
        exact hne (by rw [harray, Option.getD_some])
      rw [model?_eq_none_of_tokenKind (eq_ok_of_yields_lift h)]
      simp [not_refers_of_primaryType?_ne hs hne]

theorem model?_iff_of_referenceKind {looks aliases : Nat} {reference : String} {kind : Kind}
    (h : Yields (referenceKind components owner field looks aliases reference) kind)
    (name : String) : kind.model? = some name ↔ components.RefersBy reference name := by
  induction looks generalizing aliases reference kind name with
  | zero => exact absurd h not_yields_throw
  | succ looks ih =>
      unfold referenceKind at h
      split at h
      · exact absurd h not_yields_throw
      · obtain ⟨t, ht, h⟩ := exists_yields_of_bind h
        have ht := eq_ok_of_yields_lift ht
        unfold Components.RefersBy
        rw [ht]
        cases t with
        | model model =>
            rw [← eq_of_yields_pure h]
            simp [Kind.model?]
        | enumeration enumeration =>
            rw [← eq_of_yields_pure h]
            simp [Kind.model?]
        | aliasOf named =>
            -- The alias is a reference itself, or the references inside it start chains of their
            -- own.
            have hkind : kind.model? = some name ↔ components.Refers named name := by
              cases hreference : named.reference with
              | some next =>
                  simp only [hreference] at h
                  rw [Components.refers_iff_of_reference hreference]
                  exact ih h name
              | none =>
                  simp only [hreference] at h
                  exact model?_iff_of_inlineKind (fun _ _ hk name => ih hk name) hreference h name
            rw [hkind]
            simp

/-- A classified property says what its schema says. -/
structure Property.Of (components : Components) (s : Schema) (p : Property) : Prop where
  nullable_eq : p.nullable = components.nullable s
  visibility_eq : p.visibility = components.visibility s
  model?_iff : ∀ name, p.kind.model? = some name ↔ components.Refers s name

theorem property_of_yields {s : Schema} {p : Property}
    (h : Yields (components.property owner field s) p) : p.Of components s := by
  unfold Components.property at h
  cases hreference : s.reference with
  | some reference =>
      simp only [hreference] at h
      obtain ⟨found, hfound, h⟩ := exists_yields_of_bind h
      obtain ⟨kind, hkind, h⟩ := exists_yields_of_bind h
      have hfound := eq_ok_of_yields_lift hfound
      have hnamed : components.named? s = some found.2 := by
        rw [Components.named?, hreference]
        simp only [hfound]
        rfl
      rw [← eq_of_yields_pure h]
      refine ⟨?_, ?_, ?_⟩
      · rw [Components.nullable, hnamed]
        rfl
      · rw [Components.visibility, hnamed]
        rfl
      · intro name
        rw [Components.refers_iff_of_reference hreference]
        exact model?_iff_of_referenceKind hkind name
  | none =>
      simp only [hreference] at h
      obtain ⟨kind, hkind, h⟩ := exists_yields_of_bind h
      have hnamed : components.named? s = none := by rw [Components.named?, hreference]
      rw [← eq_of_yields_pure h]
      refine ⟨?_, ?_, ?_⟩
      · simp [Components.nullable, hnamed]
      · simp [Components.visibility, hnamed]
      · exact model?_iff_of_inlineKind (fun _ _ hk name => model?_iff_of_referenceKind hk name)
          hreference hkind

end Kinds

/-! ## Models of components -/

/-- The properties of an object, in order. -/
def propertiesOf (s : Schema) : List (String × Schema) := s.properties.getD []

/-- The field is that of a property of an object with these required properties. -/
structure Field.OfProperty (components : Components) (required : List String)
    (x : String × Schema) (f : Field) : Prop where
  wireName_eq : f.wireName = x.1
  optional_eq : f.optional = !required.contains x.1
  nullable_eq : f.nullable = components.nullable x.2
  visibility_eq : f.visibility = components.visibility x.2
  model?_iff : ∀ name, f.kind.model? = some name ↔ components.Refers x.2 name

/-- The model is that of an object component: one field for each property, and a check for each
field that rejects null. -/
structure Model.Describes (components : Components) (component name : String) (s : Schema)
    (m : Model) : Prop where
  name_eq : m.name = name
  origin_eq : m.origin = .component component
  variant_eq : m.variant = none
  fields : List.Forall₂ (Field.OfProperty components s.required) (propertiesOf s) m.fields
  names_nodup : (m.fields.map Field.name).Nodup
  validators_eq : m.validators = validatorsOf m.fields

section Models

variable {components : Components}

theorem map_name_fieldsOf (required : List String) (properties : List (String × Property)) :
    (fieldsOf required properties).map Field.name =
      Lexical.uniqueAll [] (properties.map fun p => Naming.fieldName p.1) :=
  map_zipWith_left (fun _ _ => rfl) (Nat.le_of_eq (Lexical.length_uniqueAll_map _ _ _))

theorem nodup_names_fieldsOf (required : List String) (properties : List (String × Property)) :
    ((fieldsOf required properties).map Field.name).Nodup := by
  rw [map_name_fieldsOf]
  exact Lexical.nodup_uniqueAll [] _

/-- The fields of an object are those of its properties, in order. -/
theorem forall₂_fieldsOf {required : List String} {xs : List (String × Schema)}
    {properties : List (String × Property)}
    (h : List.Forall₂ (fun x p => p.1 = x.1 ∧ p.2.Of components x.2) xs properties) :
    List.Forall₂ (Field.OfProperty components required) xs (fieldsOf required properties) := by
  have hfields : List.Forall₂ (fun p f => ∀ x : String × Schema, p.1 = x.1 ∧ p.2.Of components x.2 →
      f.OfProperty components required x) properties (fieldsOf required properties) := by
    refine forall₂_zipWith ?_ (Lexical.length_uniqueAll_map _ _ _)
    rintro name ⟨wireName, p⟩ x ⟨hname, hp⟩
    exact ⟨hname, by rw [← hname], hp.nullable_eq, hp.visibility_eq, hp.model?_iff⟩
  exact forall₂_comp h hfields fun x p f hxp hpf => hpf x hxp

theorem describes_of_yields_model {component name : String} {s : Schema} {m : Model}
    (h : Yields (components.model name component s) m) :
    m.Describes components component name s := by
  obtain ⟨properties, hproperties, h⟩ := exists_yields_of_bind h
  rw [← eq_of_yields_pure h]
  have hall : List.Forall₂ (fun x p => p.1 = x.1 ∧ p.2.Of components x.2) (propertiesOf s)
      properties := by
    refine (forall₂_of_yields_mapM hproperties).imp ?_
    intro x p hp
    obtain ⟨property, hproperty, hp⟩ := exists_yields_of_bind hp
    rw [← eq_of_yields_pure hp]
    exact ⟨rfl, property_of_yields hproperty⟩
  exact ⟨rfl, rfl, rfl, forall₂_fieldsOf hall, nodup_names_fieldsOf _ _, rfl⟩

theorem describes_of_yields_declare {component : String} {s : Schema} {declared : Option Model}
    (h : Yields (components.declare component s) declared) :
    (∀ m ∈ declared, ∃ name, Target.ofComponent component s = .model name ∧
      m.Describes components component name s) ∧
    ∀ name, Target.ofComponent component s = .model name → declared.isSome := by
  unfold Components.declare at h
  cases htarget : Target.ofComponent component s with
  | model name =>
      rw [htarget] at h
      obtain ⟨-, -, h⟩ := exists_yields_of_bind h
      obtain ⟨model, hmodel, h⟩ := exists_yields_of_bind h
      rw [← eq_of_yields_pure h]
      refine ⟨?_, fun _ _ => rfl⟩
      intro m hm
      cases hm
      exact ⟨name, rfl, describes_of_yields_model hmodel⟩
  | enumeration name =>
      rw [htarget] at h
      obtain ⟨-, -, h⟩ := exists_yields_of_bind h
      obtain ⟨-, -, h⟩ := exists_yields_of_bind h
      rw [← eq_of_yields_pure h]
      exact ⟨fun _ hm => absurd hm (by simp), fun _ heq => absurd heq (by simp)⟩
  | aliasOf named =>
      rw [htarget] at h
      rw [← eq_of_yields_pure h]
      exact ⟨fun _ hm => absurd hm (by simp), fun _ heq => absurd heq (by simp)⟩

/-- The models of all components describe the object components. -/
theorem describes_of_yields_models {base : List Model} (h : Yields components.models base) :
    (∀ m ∈ base, ∃ component s name, (component, s) ∈ components ∧
      Target.ofComponent component s = .model name ∧ m.Describes components component name s) ∧
    ∀ component s name, (component, s) ∈ components →
      Target.ofComponent component s = .model name →
      ∃ m ∈ base, m.Describes components component name s := by
  obtain ⟨declared, hdeclared, h⟩ := exists_yields_of_bind h
  have hall := forall₂_of_yields_mapM hdeclared
  rw [← eq_of_yields_pure h]
  constructor
  · intro m hm
    obtain ⟨_, hmem, rfl⟩ := List.mem_filterMap.1 hm
    obtain ⟨⟨component, s⟩, hc, hyields⟩ := exists_of_mem_right hall hmem
    obtain ⟨name, htarget, hdescribes⟩ := (describes_of_yields_declare hyields).1 m rfl
    exact ⟨component, s, name, hc, htarget, hdescribes⟩
  · intro component s name hc htarget
    obtain ⟨d, hd, hyields⟩ := exists_of_mem_left hall hc
    obtain ⟨hmodel, hsome⟩ := describes_of_yields_declare hyields
    obtain ⟨m, rfl⟩ := Option.isSome_iff_exists.1 (hsome name htarget)
    obtain ⟨name', htarget', hdescribes⟩ := hmodel m rfl
    rw [htarget] at htarget'
    cases htarget'
    exact ⟨m, List.mem_filterMap.2 ⟨some m, hd, rfl⟩, hdescribes⟩

end Models

/-! ## Containers and calls -/

/-- The field is that of a query parameter. -/
structure Field.OfParameter (components : Components) (p : Parameter) (f : Field) : Prop where
  wireName_eq : f.wireName = p.name
  optional_eq : f.optional = !p.required
  visibility_eq : f.visibility = .standard
  model?_iff : ∀ name, f.kind.model? = some name ↔
    ∃ s, p.schema = some s ∧ components.Refers s name

/-- The parameters of an operation that are sent in the query. -/
def queryParametersOf (o : Operation) : List Parameter :=
  o.parameters.filter fun p => p.location == .query

/-- The model is the container of an operation: one field for each query parameter, and no
checks. -/
structure Model.Collects (components : Components) (o : Operation) (m : Model) : Prop where
  name_eq : m.name = containerName o
  origin_eq : m.origin = .queryParameters (operationId o)
  variant_eq : m.variant = none
  fields : List.Forall₂ (Field.OfParameter components) (queryParametersOf o) m.fields
  validators_eq : m.validators = []

section Calls

variable {components : Components}

theorem ofParameter_of_yields {queryName : String} {p : Parameter} {f : Field}
    (h : Yields (components.queryField queryName p) f) : f.OfParameter components p := by
  unfold Components.queryField at h
  cases hschema : p.schema with
  | some s =>
      simp only [hschema] at h
      obtain ⟨property, hproperty, h⟩ := exists_yields_of_bind h
      rw [← eq_of_yields_pure h]
      refine ⟨rfl, rfl, rfl, ?_⟩
      intro name
      rw [(property_of_yields hproperty).model?_iff, hschema]
      simp
  | none =>
      simp only [hschema] at h
      obtain ⟨property, hproperty, h⟩ := exists_yields_of_bind h
      rw [← eq_of_yields_pure h, ← eq_of_yields_pure hproperty]
      refine ⟨rfl, rfl, rfl, ?_⟩
      intro name
      rw [hschema]
      simp [Kind.model?]

/-- The fields that the declared parameters yield are those of the query parameters, in order. -/
theorem forall₂_queryFields {queryName : String} {parameters : List Parameter}
    {declared : List (Option Components.Argument)}
    (h : List.Forall₂ (fun p a => Yields (components.argument? queryName p) a) parameters
      declared) :
    List.Forall₂ (fun p f => Yields (components.queryField queryName p) f)
      (parameters.filter fun p => p.location == .query)
      ((declared.filterMap fun a => a).filterMap Components.Argument.query?) := by
  induction h with
  | nil => exact List.Forall₂.nil
  | @cons p a parameters declared ha _ ih =>
      unfold Components.argument? at ha
      cases hlocation : p.location with
      | query =>
          rw [hlocation] at ha
          obtain ⟨f, hf, ha⟩ := exists_yields_of_bind ha
          rw [← eq_of_yields_pure ha, List.filter_cons_of_pos (by simp [hlocation])]
          exact List.Forall₂.cons hf ih
      | path =>
          rw [hlocation] at ha
          obtain ⟨parameter, -, ha⟩ := exists_yields_of_bind ha
          rw [← eq_of_yields_pure ha, List.filter_cons_of_neg (by simp [hlocation])]
          exact ih
      | header =>
          rw [hlocation] at ha
          rw [← eq_of_yields_pure ha, List.filter_cons_of_neg (by simp [hlocation])]
          exact ih
      | cookie =>
          rw [hlocation] at ha
          rw [← eq_of_yields_pure ha, List.filter_cons_of_neg (by simp [hlocation])]
          exact ih

theorem map_name_distinctFields (fields : List Field) :
    (distinctFields fields).map Field.name = Lexical.uniqueAll [] (fields.map Field.name) :=
  map_zipWith_left (fun _ _ => rfl) (Nat.le_of_eq (Lexical.length_uniqueAll_map _ _ _))

theorem forall₂_distinctFields {parameters : List Parameter} {fields : List Field}
    (h : List.Forall₂ (Field.OfParameter components) parameters fields) :
    List.Forall₂ (Field.OfParameter components) parameters (distinctFields fields) := by
  have hfields : List.Forall₂ (fun f f' => ∀ p, f.OfParameter components p →
      f'.OfParameter components p) fields (distinctFields fields) :=
    forall₂_zipWith
      (fun _ _ _ hp => ⟨hp.wireName_eq, hp.optional_eq, hp.visibility_eq, hp.model?_iff⟩)
      (Lexical.length_uniqueAll_map _ _ _)
  exact forall₂_comp h hfields fun p _ _ hp hf => hf p hp

theorem collects_of_yields_queryModel? {o : Operation} {fields : List Field} {m : Model}
    (hfields : List.Forall₂ (Field.OfParameter components) (queryParametersOf o) fields)
    (h : Yields (queryModel? (containerName o) (operationId o) fields) (some m)) :
    m.Collects components o := by
  unfold queryModel? at h
  split at h
  · cases eq_of_yields_pure h
  · obtain ⟨-, -, h⟩ := exists_yields_of_bind h
    rw [← Option.some.inj (eq_of_yields_pure h)]
    exact ⟨rfl, rfl, rfl, forall₂_distinctFields hfields, rfl⟩

/-- A call has the bodies of its operation, and a container that collects its query parameters. -/
theorem collects_of_yields_call {mode : Mode} {o : Operation} {r : Call × Option Model}
    (h : Yields (components.call mode o) r) :
    components.requestType o = .ok r.1.body ∧ components.responseType o = .ok r.1.response ∧
      ∀ m ∈ r.2, m.Collects components o := by
  obtain ⟨-, -, h⟩ := exists_yields_of_bind h
  obtain ⟨declared, hdeclared, h⟩ := exists_yields_of_bind h
  obtain ⟨query, hquery, h⟩ := exists_yields_of_bind h
  obtain ⟨body, hbody, h⟩ := exists_yields_of_bind h
  obtain ⟨response, hresponse, h⟩ := exists_yields_of_bind h
  have hfields := (forall₂_queryFields (forall₂_of_yields_mapM hdeclared)).imp
    fun _ _ => ofParameter_of_yields
  rw [← eq_of_yields_pure h]
  refine ⟨eq_ok_of_yields_lift hbody, eq_ok_of_yields_lift hresponse, ?_⟩
  intro m hm
  have hm : query = some m := hm
  rw [hm] at hquery
  exact collects_of_yields_queryModel? hfields hquery

end Calls

end TypedClient.Plan
