import TypedClient.Proofs.Kinds
import TypedClient.Proofs.Lists
import TypedClient.Proofs.Names.Stages

/-!
# Models of components

A kind is closed if the class that it refers to exists: a model stands for a component, and an
enumeration stands for a component or has been declared. Every kind that a schema is given is closed
(`gives_property`), whatever references, lists and aliases the schema goes through. The components
together give one model for each object component, with a name that is claimed for it and closed
fields, and declare every enumeration component (`gives_models`).
-/

namespace TypedClient.Plan

open OpenApi (Schema)
open Claiming

/-! ## Components behind references -/

/-- An alias is one for its own schema. -/
theorem eq_of_ofComponent_aliasOf {component : String} {s named : Schema}
    (h : Target.ofComponent component s = .aliasOf named) : named = s := by
  unfold Target.ofComponent at h
  split at h
  · cases h
  · split at h
    · cases h
    · cases h
      rfl

namespace Components

variable {components : Components}

theorem find_eq_ok_iff {reference component : String} {s : Schema} :
    components.find reference = .ok (component, s) ↔
      Naming.referencedComponent? reference = some component ∧
        components.lookup component = some s := by
  constructor
  · intro h
    unfold find at h
    split at h
    · cases h
    · next named hnamed =>
        split at h
        · cases h
        · next found hfound =>
            cases h
            exact ⟨hnamed, hfound⟩
  · rintro ⟨hnamed, hfound⟩
    unfold find
    rw [hnamed]
    simp only [hfound]

theorem find_eq_error {reference : String} {e : GenerationError}
    (h : components.find reference = .error e) : e = .unresolved (.dangling reference) := by
  unfold find at h
  split at h
  · cases h
    rfl
  · split at h
    · cases h
      rfl
    · cases h

theorem target_eq_error {reference : String} {e : GenerationError}
    (h : components.target reference = .error e) : e = .unresolved (.dangling reference) := by
  unfold target at h
  split at h
  · cases h
  · next hfind =>
      cases h
      exact find_eq_error hfind


theorem target_of_find {reference component : String} {s : Schema}
    (hfind : components.find reference = .ok (component, s)) :
    components.target reference = .ok (.ofComponent component s) := by
  rw [target, hfind]

end Components

/-! ## Closed kinds -/

/-- The class that the kind refers to exists, or will once all components are declared. -/
structure Kind.Closed (components : Components) (kind : Kind) (n : Names) : Prop where
  model : ∀ name, kind.model? = some name → components.Has (.model name)
  enumeration : ∀ name, kind.enumeration? = some name →
    components.Has (.enumeration name) ∨ name ∈ n.enums.map Enumeration.name

namespace Kind

variable {components : Components} {n next : Names} {kind : Kind}

/-- A closed kind stays closed. -/
theorem Closed.mono (h : kind.Closed components n) (hnext : n.Extends next) :
    kind.Closed components next := by
  refine ⟨h.model, ?_⟩
  intro name hname
  rcases h.enumeration name hname with hhas | hmem
  · exact Or.inl hhas
  · exact Or.inr (hnext.mem_enums hmem)

theorem Closed.list (h : kind.Closed components n) : (Kind.list kind).Closed components n :=
  ⟨h.model, h.enumeration⟩

theorem closed_of_eq_none (hmodel : kind.model? = none) (henum : kind.enumeration? = none)
    (n : Names) : kind.Closed components n := by
  constructor
  · intro name hname
    rw [hmodel] at hname
    cases hname
  · intro name hname
    rw [henum] at hname
    cases hname

theorem closed_model {name : String} (h : components.Has (.model name)) (n : Names) :
    (Kind.model name false).Closed components n := by
  constructor
  · intro name' hname
    cases hname
    exact h
  · intro name' hname
    cases hname

theorem closed_enumeration {name : String}
    (h : components.Has (.enumeration name) ∨ name ∈ n.enums.map Enumeration.name) :
    (Kind.enumeration name).Closed components n := by
  constructor
  · intro name' hname
    cases hname
  · intro name' hname
    cases hname
    exact h

end Kind

section Kinds

variable {components : Components}

/-- What a reference stands for is what some component stands for. -/
theorem Components.has_of_target {reference : String} {t : Target}
    (h : components.target reference = .ok t) : components.Has t := by
  obtain ⟨component, s, hfind, rfl⟩ := Components.target_eq_ok h
  obtain ⟨-, hlookup⟩ := Components.find_eq_ok_iff.1 hfind
  obtain ⟨before, after, rfl, -⟩ := List.lookup_eq_some_iff.1 hlookup
  exact ⟨component, s, List.mem_append_right before List.mem_cons_self, rfl⟩

/-- A stage whose results are closed kinds. -/
abbrev GivesClosed (components : Components) (m : Claiming Kind) : Prop :=
  Gives components m fun kind next => kind.Closed components next

theorem givesClosed_pure {kind : Kind} (hmodel : kind.model? = none)
    (henum : kind.enumeration? = none) : GivesClosed components (pure kind) := by
  intro n kind' next hn h
  obtain ⟨rfl, rfl⟩ := pure_eq_ok h
  exact ⟨Names.Grows.refl hn, Kind.closed_of_eq_none hmodel henum n⟩

theorem givesClosed_list {m : Claiming Kind} (hm : GivesClosed components m) :
    GivesClosed components (Kind.list <$> m) := by
  intro n kind next hn h
  obtain ⟨items, hitems, rfl⟩ := map_eq_ok h
  obtain ⟨hgrows, hclosed⟩ := hm n items next hn hitems
  exact ⟨hgrows, hclosed.list⟩

theorem givesClosed_textKind (owner field : String) (s : Schema) :
    GivesClosed components (textKind owner field s) := by
  unfold textKind
  split
  · exact givesClosed_pure rfl rfl
  · split
    · exact givesClosed_pure rfl rfl
    · split
      · exact givesClosed_pure rfl rfl
      · intro n kind next hn h
        obtain ⟨name, declared, henum, h⟩ := bind_eq_ok h
        obtain ⟨rfl, rfl⟩ := pure_eq_ok h
        obtain ⟨hgrows, hmem⟩ := Names.grows_of_fieldEnum hn (withNames_eq_ok henum)
        exact ⟨hgrows, Kind.closed_enumeration (Or.inr hmem)⟩

theorem givesClosed_tokenKind (owner field token : String) (s : Schema) :
    GivesClosed components (liftM (tokenKind owner field token s)) := by
  intro n kind next hn h
  obtain ⟨h, rfl⟩ := lift_eq_ok h
  refine ⟨Names.Grows.refl hn, ?_⟩
  unfold tokenKind at h
  split at h
  · cases h
    exact Kind.closed_of_eq_none rfl rfl n
  · split at h
    · cases h
      exact Kind.closed_of_eq_none rfl rfl n
    · split at h
      · cases h
        exact Kind.closed_of_eq_none rfl rfl n
      · cases h

theorem givesClosed_throw (e : GenerationError) : GivesClosed components (throw e) := by
  intro n kind next hn h
  cases h

/-- The kind of a schema is closed if those of the references in it are. -/
theorem givesClosed_inlineKind {follow : String → Claiming Kind}
    (hfollow : ∀ reference, GivesClosed components (follow reference)) (owner field : String)
    (s : Schema) : GivesClosed components (inlineKind follow owner field s) := by
  fun_induction inlineKind follow owner field s with
  | case1 s => exact givesClosed_throw _
  | case2 s => exact givesClosed_textKind owner field s
  | case3 => exact givesClosed_pure rfl rfl
  | case4 _ _ _ _ _ _ reference => exact givesClosed_list (hfollow reference)
  | case5 => exact givesClosed_pure rfl rfl
  | case6 _ _ _ _ _ _ _ _ _ ih => exact givesClosed_list ih
  | case7 s => exact givesClosed_tokenKind owner field _ s

/-- The kind of a reference is closed, however many aliases it goes through. -/
theorem givesClosed_referenceKind (owner field : String) (looks aliases : Nat)
    (reference : String) :
    GivesClosed components (referenceKind components owner field looks aliases reference) := by
  induction looks generalizing aliases reference with
  | zero => exact givesClosed_throw _
  | succ looks ih =>
      unfold referenceKind
      split
      · exact givesClosed_throw _
      · intro n kind next hn h
        obtain ⟨t, middle, hlift, h⟩ := bind_eq_ok h
        obtain ⟨ht, rfl⟩ := lift_eq_ok hlift
        have hhas := Components.has_of_target ht
        cases t with
        | model name =>
            obtain ⟨rfl, rfl⟩ := pure_eq_ok h
            exact ⟨Names.Grows.refl hn, Kind.closed_model hhas n⟩
        | enumeration name =>
            obtain ⟨rfl, rfl⟩ := pure_eq_ok h
            exact ⟨Names.Grows.refl hn, Kind.closed_enumeration (Or.inl hhas)⟩
        | aliasOf s =>
            cases hreference : s.reference with
            | some next' =>
                simp only [hreference] at h
                exact ih (aliases + 1) next' n kind next hn h
            | none =>
                simp only [hreference] at h
                exact givesClosed_inlineKind (ih 0) owner field s n kind next hn h

/-- The kind of a property is closed. -/
theorem gives_property (owner field : String) (s : Schema) :
    Gives components (components.property owner field s)
      fun p next => p.kind.Closed components next := by
  unfold Components.property
  split
  · next reference _ =>
      intro n p next hn h
      obtain ⟨found, middle, hfound, h⟩ := bind_eq_ok h
      obtain ⟨-, rfl⟩ := lift_eq_ok hfound
      obtain ⟨kind, last, hkind, h⟩ := bind_eq_ok h
      obtain ⟨rfl, rfl⟩ := pure_eq_ok h
      exact givesClosed_referenceKind owner field _ 0 reference n kind last hn hkind
  · intro n p next hn h
    obtain ⟨kind, last, hkind, h⟩ := bind_eq_ok h
    obtain ⟨rfl, rfl⟩ := pure_eq_ok h
    exact givesClosed_inlineKind (givesClosed_referenceKind owner field _ 0) owner field s n kind
      last hn hkind

end Kinds

/-! ## Models -/

/-- The kinds of all fields of the model are closed. -/
def Model.Closed (components : Components) (m : Model) (n : Names) : Prop :=
  ∀ f ∈ m.fields, f.kind.Closed components n

theorem Model.Closed.mono {components : Components} {m : Model} {n next : Names}
    (h : m.Closed components n) (hnext : n.Extends next) : m.Closed components next :=
  fun f hf => (h f hf).mono hnext

/-- The model is that of an object component, which has claimed its name. -/
structure Model.OfComponent (components : Components) (component : String) (m : Model)
    (n : Names) : Prop where
  origin_eq : m.origin = .component component
  variant_eq : m.variant = none
  claimed : n.types.lookup m.name = some (componentOrigin component)
  closed : m.Closed components n

/-- What is known of a component that has been declared. -/
def Components.Declared (components : Components) (component : String) (s : Schema)
    (declared : Option Model) (n : Names) : Prop :=
  match Target.ofComponent component s with
  | .model name =>
      ∃ m : Model, declared = some m ∧ m.name = name ∧ m.OfComponent components component n
  | .enumeration name => declared = none ∧ name ∈ n.enums.map Enumeration.name
  | .aliasOf _ => declared = none

section Models

variable {components : Components}

theorem Model.OfComponent.mono {component : String} {m : Model} {n next : Names}
    (h : m.OfComponent components component n) (hnext : n.Extends next) :
    m.OfComponent components component next :=
  ⟨h.origin_eq, h.variant_eq, hnext.types _ _ h.claimed, h.closed.mono hnext⟩

theorem Components.Declared.mono {component : String} {s : Schema} {declared : Option Model}
    {n next : Names} (h : components.Declared component s declared n) (hnext : n.Extends next) :
    components.Declared component s declared next := by
  unfold Components.Declared at h ⊢
  split
  · next name heq =>
      rw [heq] at h
      obtain ⟨m, rfl, hname, hm⟩ := h
      exact ⟨m, rfl, hname, hm.mono hnext⟩
  · next name heq =>
      rw [heq] at h
      exact ⟨h.1, hnext.mem_enums h.2⟩
  · next s' heq =>
      rw [heq] at h
      exact h

theorem gives_properties (owner : String) (properties : List (String × Schema)) :
    Gives components (components.properties owner properties)
      fun ps next => ∀ p ∈ ps, p.2.kind.Closed components next := by
  intro n ps next hn h
  have hstep : ∀ x ∈ properties, Gives components
      (do let property ← components.property owner x.1 x.2; return (x.1, property))
      fun (p : String × Property) next => p.2.kind.Closed components next := by
    intro x hx n p next hn h
    obtain ⟨property, middle, hproperty, h⟩ := bind_eq_ok h
    obtain ⟨rfl, rfl⟩ := pure_eq_ok h
    exact gives_property owner x.1 x.2 n property middle hn hproperty
  obtain ⟨hgrows, hps⟩ := gives_mapM (Q := fun _ p next => p.2.kind.Closed components next) hstep
    (fun _ _ _ _ hnext hp => hp.mono hnext) n ps next hn h
  refine ⟨hgrows, ?_⟩
  intro p hp
  obtain ⟨x, -, hclosed⟩ := exists_of_mem_right hps hp
  exact hclosed

/-- Every field of an object has the kind of one of its properties. -/
theorem exists_property_of_mem_fieldsOf {required : List String}
    {properties : List (String × Property)} {f : Field} (hf : f ∈ fieldsOf required properties) :
    ∃ p ∈ properties, f.kind = p.2.kind := by
  obtain ⟨name, -, p, hp, rfl⟩ := exists_of_mem_zipWith hf
  exact ⟨p, hp, rfl⟩

theorem gives_model (name component : String) (s : Schema) :
    Gives components (components.model name component s) fun m next =>
      m.name = name ∧ m.origin = .component component ∧ m.variant = none ∧
        m.Closed components next := by
  intro n m next hn h
  obtain ⟨properties, middle, hproperties, h⟩ := bind_eq_ok h
  obtain ⟨rfl, rfl⟩ := pure_eq_ok h
  obtain ⟨hgrows, hclosed⟩ := gives_properties name _ n properties middle hn hproperties
  refine ⟨hgrows, rfl, rfl, rfl, ?_⟩
  intro f hf
  obtain ⟨p, hp, hkind⟩ := exists_property_of_mem_fieldsOf hf
  rw [hkind]
  exact hclosed p hp

/-- Declaring a component gives what it stands for. -/
theorem gives_declare {component : String} {s : Schema} (hmem : (component, s) ∈ components) :
    Gives components (components.declare component s) (components.Declared component s) := by
  intro n declared next hn h
  unfold Components.declare at h
  unfold Components.Declared
  cases heq : Target.ofComponent component s with
  | model name =>
      rw [heq] at h
      obtain ⟨u, claimed, hclaim, h⟩ := bind_eq_ok h
      obtain ⟨m, middle, hm, h⟩ := bind_eq_ok h
      obtain ⟨rfl, rfl⟩ := pure_eq_ok h
      obtain ⟨hgrows, hlookup⟩ := Names.grows_of_claimType hn (claimType_eq_ok hclaim)
      obtain ⟨hgrows', hname, horigin, hvariant, hclosed⟩ :=
        gives_model name component s claimed m middle hgrows.sound hm
      subst hname
      exact ⟨hgrows.trans hgrows', m, rfl, rfl,
        horigin, hvariant, hgrows'.extended.types _ _ hlookup, hclosed⟩
  | enumeration name =>
      rw [heq] at h
      obtain ⟨u, claimed, hclaim, h⟩ := bind_eq_ok h
      obtain ⟨name', middle, henum, h⟩ := bind_eq_ok h
      obtain ⟨rfl, rfl⟩ := pure_eq_ok h
      obtain ⟨hgrows, -⟩ := Names.grows_of_claimType hn (claimType_eq_ok hclaim)
      have horigin : EnumOrigin components name (componentOrigin component) :=
        Or.inr ⟨component, s, hmem, heq, rfl⟩
      obtain ⟨hgrows', hname⟩ :=
        Names.grows_of_namedEnum hgrows.sound horigin (withNames_eq_ok henum)
      exact ⟨hgrows.trans hgrows', rfl, hname⟩
  | aliasOf s' =>
      rw [heq] at h
      obtain ⟨rfl, rfl⟩ := pure_eq_ok h
      exact ⟨Names.Grows.refl hn, rfl⟩

/-- What the models of all components are, and what has been declared with them. -/
structure Components.Modelled (components : Components) (models : List Model) (n : Names) :
    Prop where
  ofComponent : ∀ m ∈ models, ∃ component s, (component, s) ∈ components ∧
    Target.ofComponent component s = .model m.name ∧ m.OfComponent components component n
  mem_names : ∀ name, components.Has (.model name) → name ∈ models.map Model.name
  mem_enums : ∀ name, components.Has (.enumeration name) → name ∈ n.enums.map Enumeration.name
  origins : (models.map Model.origin).Sublist (components.map fun c => Origin.component c.1)

theorem Components.Modelled.mono {models : List Model} {n next : Names}
    (h : components.Modelled models n) (hnext : n.Extends next) :
    components.Modelled models next := by
  refine ⟨?_, h.mem_names, fun name hname => hnext.mem_enums (h.mem_enums name hname), h.origins⟩
  intro m hm
  obtain ⟨component, s, hmem, htarget, hm⟩ := h.ofComponent m hm
  exact ⟨component, s, hmem, htarget, hm.mono hnext⟩

/-- The models stand in the order of the components that they come from. -/
theorem sublist_origins {n : Names} {cs : List (String × Schema)} {declared : List (Option Model)}
    (h : List.Forall₂ (fun c d => components.Declared c.1 c.2 d n) cs declared) :
    ((declared.filterMap id).map Model.origin).Sublist
      (cs.map fun c => Origin.component c.1) := by
  induction h with
  | nil => exact List.Sublist.slnil
  | @cons c d cs declared hd _ ih =>
      unfold Components.Declared at hd
      split at hd
      · obtain ⟨m, rfl, -, hm⟩ := hd
        simp only [List.filterMap_cons, id, List.map_cons, hm.origin_eq]
        exact ih.cons_cons _
      · obtain ⟨rfl, -⟩ := hd
        exact ih.cons _
      · subst hd
        exact ih.cons _

/-- The components give a model for each object among them, and every enumeration is declared. -/
theorem gives_models : Gives components components.models components.Modelled := by
  intro n models next hn h
  obtain ⟨declared, middle, hdeclared, h⟩ := bind_eq_ok h
  obtain ⟨rfl, rfl⟩ := pure_eq_ok h
  have hstep : ∀ c ∈ components, Gives components (components.declare c.1 c.2)
      (components.Declared c.1 c.2) := fun c hc => gives_declare hc
  obtain ⟨hgrows, hall⟩ := gives_mapM hstep (fun _ _ _ _ hnext hd => hd.mono hnext) n declared
    middle hn hdeclared
  refine ⟨hgrows, ?_, ?_, ?_, sublist_origins hall⟩
  · intro m hm
    have hm : some m ∈ declared := by simpa using hm
    obtain ⟨⟨component, s⟩, hc, hd⟩ := exists_of_mem_right hall hm
    unfold Components.Declared at hd
    split at hd
    · next name heq =>
        obtain ⟨m', hm', rfl, hof⟩ := hd
        cases hm'
        exact ⟨component, s, hc, heq, hof⟩
    · cases hd.1
    · cases hd
  · rintro name ⟨component, s, hc, heq⟩
    obtain ⟨d, hdmem, hd⟩ := exists_of_mem_left hall hc
    simp only [Components.Declared, heq] at hd
    obtain ⟨m, rfl, rfl, -⟩ := hd
    exact List.mem_map_of_mem (by simpa using hdmem)
  · rintro name ⟨component, s, hc, heq⟩
    obtain ⟨d, -, hd⟩ := exists_of_mem_left hall hc
    simp only [Components.Declared, heq] at hd
    exact hd.2

end Models

end TypedClient.Plan
