import TypedClient.Proofs.Names.Enumerations
import TypedClient.Proofs.Plan.ClassNames
import TypedClient.Proofs.Plan.Fields

/-!
# Enumerations of one name

A property that lists its values in place may derive the class name of an enumeration component. If
the component stands first, the name belongs to an enumeration when the property asks for it: equal
values share that enumeration, and different values are a collision of enumerations. If the object
with the property stands first, the component claims a name that is taken, and the run ends with a
collision of classes even if the values are equal (`sharedEnumeration_spec`).
-/

namespace TypedClient.Plan

open OpenApi (Document Schema)
open Claiming

/-! ## Values in place -/

/-- The schema lists the values in place: it is a text with these values, or its items list them. -/
inductive ListsInPlace (values : List Json) : Schema → Prop where
  | text {s : Schema} (henum : s.isStringEnum = true) (hvalues : s.enumeration.getD [] = values) :
      ListsInPlace values s
  | items {s items : Schema} (htype : s.primaryType? = some "array") (hitems : s.items = some items)
      (hreference : items.reference = none) (h : ListsInPlace values items) :
      ListsInPlace values s

section InPlace

variable {s items : Schema} {values : List Json}

theorem textKind_of_isStringEnum (h : s.isStringEnum = true) (owner field : String) :
    textKind owner field s = Kind.enumeration <$>
      withNames fun n => n.fieldEnum owner field (s.enumeration.getD []) := by
  simp only [Schema.isStringEnum, Bool.and_eq_true, Bool.not_eq_true', Option.isNone_iff_eq_none]
    at h
  obtain ⟨⟨⟨-, hvalues⟩, hlength⟩, hformat⟩ := h
  rw [textKind, if_neg (by simp [hlength]), hformat]
  simp only
  cases hlisted : s.enumeration.getD [] with
  | nil =>
      rw [hlisted] at hvalues
      cases hvalues
  | cons value values => rw [map_eq_pure_bind]

theorem ListsInPlace.exists_type (h : ListsInPlace values s) : ∃ type, s.type = some type := by
  cases h with
  | text henum _ =>
      simp only [Schema.isStringEnum, Bool.and_eq_true, beq_iff_eq] at henum
      obtain ⟨type, htype, -⟩ := exists_type_of_primaryType? henum.1.1.1
      exact ⟨type, htype⟩
  | items htype _ _ _ =>
      obtain ⟨type, htype, -⟩ := exists_type_of_primaryType? htype
      exact ⟨type, htype⟩

theorem inlineKind_of_items_in_place {follow : String → Claiming Kind}
    (htype : s.primaryType? = some "array") (hitems : s.items = some items)
    (hreference : items.reference = none) (h : ListsInPlace values items) (owner field : String) :
    inlineKind follow owner field s = .list <$> inlineKind follow owner field items := by
  obtain ⟨type, hdecl⟩ := h.exists_type
  rw [inlineKind_of_array htype hitems, hreference, hdecl]

/-- A schema that lists values in place is given their enumeration, inside of as many lists as it
has. -/
theorem exists_inlineKind_eq (h : ListsInPlace values s) :
    ∃ wrap : Kind → Kind, (∀ part, Kind.Part part (wrap part)) ∧ ∀ follow owner field,
      inlineKind follow owner field s = (fun name => wrap (.enumeration name)) <$>
        withNames fun n => n.fieldEnum owner field values := by
  induction h with
  | @text s henum hvalues =>
      refine ⟨id, fun _ => Kind.Part.self, ?_⟩
      intro follow owner field
      have hstring := henum
      simp only [Schema.isStringEnum, Bool.and_eq_true, beq_iff_eq] at hstring
      obtain ⟨type, hdecl, htoken⟩ := exists_type_of_primaryType? hstring.1.1.1
      rw [inlineKind]
      simp only [hdecl, htoken, Option.getD_some]
      rw [textKind_of_isStringEnum henum, hvalues]
      rfl
  | items htype hitems hreference h ih =>
      obtain ⟨wrap, hpart, heq⟩ := ih
      refine ⟨fun kind => .list (wrap kind), fun part => (hpart part).items, ?_⟩
      intro follow owner field
      rw [inlineKind_of_items_in_place htype hitems hreference h, heq, ← comp_map]
      rfl

/-- A property that lists values in place succeeds or fails as the request for their enumeration. -/
theorem property_of_listsInPlace (components : Components) (hreference : s.reference = none)
    (h : ListsInPlace values s) (owner field : String) (n : Names) :
    (∀ name next, n.fieldEnum owner field values = .ok (name, next) →
      ∃ p, components.property owner field s n = .ok (p, next) ∧
        Kind.Part (.enumeration name) p.kind) ∧
    ∀ e, n.fieldEnum owner field values = .error e →
      components.property owner field s n = .error e := by
  obtain ⟨wrap, hpart, hkind⟩ := exists_inlineKind_eq h
  unfold Components.property
  rw [hreference]
  simp only
  rw [hkind, map_eq_pure_bind, bind_assoc]
  constructor
  · intro name next hname
    have hrequest : withNames (fun n => n.fieldEnum owner field values) n = .ok (name, next) :=
      hname
    rw [bind_of_ok hrequest]
    exact ⟨_, rfl, hpart _⟩
  · intro e he
    have hrequest : withNames (fun n => n.fieldEnum owner field values) n = .error e := he
    exact bind_of_error hrequest _

end InPlace

/-! ## Requests for a name that is known -/

namespace Names

variable {components : Components} {n next : Names} {owner field name : String}
  {values : List Json}

/-- The name of a declared enumeration is given again for its own values only. -/
theorem fieldEnum_of_enum? {e : Enumeration}
    (hkey : n.fieldEnums.lookup (field, writtenValues values) = none)
    (he : n.enum? (Naming.enumName owner field) = some e) :
    (Json.sameItems e.values values = true → ∃ i,
      n.fieldEnum owner field values = .ok (Naming.enumName owner field, { n with
        fieldEnums := ((field, writtenValues values), i) :: n.fieldEnums })) ∧
    (Json.sameItems e.values values = false →
      n.fieldEnum owner field values =
        .error (.enumCollision (Naming.enumName owner field) e.values values)) := by
  obtain ⟨i, hi, rfl⟩ := Option.map_eq_some_iff.1 he
  unfold fieldEnum declareEnum
  simp only [hkey, hi]
  constructor
  · intro hsame
    exact ⟨i, by rw [if_pos hsame]⟩
  · intro hdiffer
    rw [if_neg (by simp [hdiffer])]

theorem byName_eq_none_of_lookup (hn : n.Sound components) (h : n.types.lookup name = none) :
    n.byName.lookup name = none := by
  rw [Option.eq_none_iff_forall_ne_some]
  intro i hi
  obtain ⟨e, he, rfl⟩ := (hn.indexed.byName_iff name i).1 hi
  obtain ⟨origin, horigin, -⟩ :=
    hn.enum_claimed e.name (List.mem_map_of_mem (List.mem_of_getElem? he))
  rw [h] at horigin
  cases horigin

/-- An enumeration that takes a free name is the one of this name, claimed for its origin. -/
theorem declareEnum_of_lookup {origin : String} {i : Nat} (hnone : n.byName.lookup name = none)
    (h : n.declareEnum name values origin = .ok (i, next)) :
    next.enum? name = some ⟨name, membersOf values⟩ ∧
      next.types.lookup name = some origin := by
  rcases declareEnum_eq_ok h with ⟨hfound, -, -⟩ | ⟨-, rfl, types, htypes, rfl⟩
  · rw [hnone] at hfound
    cases hfound
  · refine ⟨?_, lookup_of_claim htypes⟩
    rw [enum?, List.lookup_cons_self, Option.map_some,
      enumAt_of_getElem? (List.getElem?_concat_length ..)]

/-- The enumerations of one name are one, in names that are sound. -/
theorem Sound.filter_eq (hn : n.Sound components) {e : Enumeration} (he : e ∈ n.enums)
    (hname : e.name = name) : n.enums.filter (fun e => e.name == name) = [e] := by
  obtain ⟨before, after, heq⟩ := List.append_of_mem he
  have hnodup := hn.enums_nodup
  rw [heq, List.map_append, List.map_cons, List.nodup_append, List.nodup_cons] at hnodup
  obtain ⟨-, ⟨hafter, -⟩, hbefore⟩ := hnodup
  rw [heq, List.filter_append, List.filter_cons_of_pos (by simp [hname]),
    List.filter_eq_nil_iff.2, List.filter_eq_nil_iff.2, List.nil_append]
  · intro e' he' hname'
    rw [← eq_of_beq hname'] at hname
    exact hafter (hname ▸ List.mem_map_of_mem he')
  · intro e' he' hname'
    have hne := hbefore e'.name (List.mem_map_of_mem he') e.name List.mem_cons_self
    rw [hname, eq_of_beq hname'] at hne
    exact hne rfl

end Names

/-! ## Runs up to a property -/

namespace Components

variable (components : Components)

/-- The run of the stages of some components. -/
def declareAll (cs : List (String × Schema)) : Claiming (List (Option Model)) :=
  cs.mapM fun (component, s) => components.declare component s

/-- The run up to a property of an object: the components before the object, its class name and the
properties before this one. -/
def upTo (cs : List (String × Schema)) (component owner : String)
    (before : List (String × Schema)) : Claiming Unit := do
  let _ ← components.declareAll cs
  claimType owner (componentOrigin component)
  let _ ← components.properties owner before

variable {components} {cs before after rest : List (String × Schema)} {n next last : Names}
  {component owner name : String} {s : Schema} {x : String × Schema} {e : GenerationError}

theorem upTo_eq_ok (h : components.upTo cs component owner before n = .ok ((), last)) :
    ∃ ds declared claimed ps, components.declareAll cs n = .ok (ds, declared) ∧
      claimType owner (componentOrigin component) declared = .ok ((), claimed) ∧
      components.properties owner before claimed = .ok (ps, last) := by
  obtain ⟨ds, declared, hdeclared, h⟩ := bind_eq_ok h
  obtain ⟨⟨⟩, claimed, hclaimed, h⟩ := bind_eq_ok h
  obtain ⟨ps, properties, hproperties, h⟩ := bind_eq_ok h
  obtain ⟨-, rfl⟩ := pure_eq_ok h
  exact ⟨ds, declared, claimed, ps, hdeclared, hclaimed, hproperties⟩

theorem gives_declareAll (hcs : ∀ c ∈ cs, c ∈ components) :
    Gives components (components.declareAll cs) fun _ _ => True := by
  intro n ds next hn h
  have hstep : ∀ c ∈ cs, Gives components (components.declare c.1 c.2)
      (components.Declared c.1 c.2) := fun c hc => gives_declare (hcs c hc)
  exact ⟨(gives_mapM hstep (fun _ _ _ _ hnext hd => hd.mono hnext) n ds next hn h).1, trivial⟩

theorem models_of_declare_error {c : String × Schema} (hcomponents : components = cs ++ c :: rest)
    {ds : List (Option Model)} (hds : components.declareAll cs {} = .ok (ds, n))
    (hc : components.declare c.1 c.2 n = .error e) : components.models {} = .error e := by
  have hall : components.declareAll (cs ++ c :: rest) {} = .error e :=
    mapM_append_cons_of_error hds hc rest
  rw [← hcomponents] at hall
  exact bind_of_error hall _

/-- A property that is refused ends the run, if the run comes to it. -/
theorem models_of_property_error (hcomponents : components = cs ++ (component, s) :: rest)
    (htarget : Target.ofComponent component s = .model owner)
    (hproperties : propertiesOf s = before ++ x :: after)
    (hupTo : components.upTo cs component owner before {} = .ok ((), n))
    (hx : components.property owner x.1 x.2 n = .error e) : components.models {} = .error e := by
  obtain ⟨ds, declared, claimed, ps, hds, hclaimed, hps⟩ := upTo_eq_ok hupTo
  refine models_of_declare_error hcomponents hds ?_
  have hall : components.properties owner (before ++ x :: after) claimed = .error e :=
    mapM_append_cons_of_error hps (bind_of_error hx _) after
  unfold declare
  rw [htarget]
  simp only
  rw [bind_of_ok hclaimed]
  refine bind_of_error ?_ _
  rw [← hproperties] at hall
  exact bind_of_error hall _

/-- Every property of an object has a field of its kind. -/
theorem exists_field_of_mem {required : List String} {properties : List (String × Property)}
    {p : String × Property} (hp : p ∈ properties) :
    ∃ f ∈ fieldsOf required properties, f.wireName = p.1 ∧ f.kind = p.2.kind := by
  have hall : List.Forall₂ (fun (p : String × Property) (f : Field) =>
      f.wireName = p.1 ∧ f.kind = p.2.kind) properties (fieldsOf required properties) :=
    forall₂_zipWith (fun _ _ => ⟨rfl, rfl⟩) (Lexical.length_uniqueAll_map _ _ _)
  exact exists_of_mem_left hall hp

/-- The run of an object goes through each of its properties, and its model has a field for it. -/
theorem exists_property_of_declare (htarget : Target.ofComponent component s = .model owner)
    (hproperties : propertiesOf s = before ++ x :: after) {d : Option Model}
    (h : components.declare component s n = .ok (d, last)) :
    ∃ claimed ps middle p next, claimType owner (componentOrigin component) n = .ok ((), claimed) ∧
      components.properties owner before claimed = .ok (ps, middle) ∧
      components.property owner x.1 x.2 middle = .ok (p, next) ∧
      (∃ ps', components.properties owner after next = .ok (ps', last)) ∧
      ∃ m, d = some m ∧ m.name = owner ∧ ∃ f ∈ m.fields, f.wireName = x.1 ∧ f.kind = p.kind := by
  unfold declare at h
  rw [htarget] at h
  obtain ⟨⟨⟩, claimed, hclaimed, h⟩ := bind_eq_ok h
  obtain ⟨m, modelled, hm, h⟩ := bind_eq_ok h
  obtain ⟨rfl, rfl⟩ := pure_eq_ok h
  obtain ⟨ps, middle, hps, hm⟩ := bind_eq_ok hm
  obtain ⟨rfl, rfl⟩ := pure_eq_ok hm
  change components.properties owner (propertiesOf s) claimed = _ at hps
  rw [hproperties] at hps
  obtain ⟨ps₁, n₁, named, n₂, ps₂, hbefore, hx, hafter, rfl⟩ := mapM_append_cons_eq_ok hps
  obtain ⟨p, n₃, hp, hx⟩ := bind_eq_ok hx
  obtain ⟨rfl, rfl⟩ := pure_eq_ok hx
  refine ⟨claimed, ps₁, n₁, p, n₃, hclaimed, hbefore, hp, ⟨ps₂, hafter⟩, _, rfl, rfl, ?_⟩
  exact exists_field_of_mem (List.mem_append_right _ List.mem_cons_self)

/-- A run that goes past an object comes to its property as `upTo` says. -/
theorem exists_property_of_declareAll {o : String × Schema} {m : Names}
    (hcs : ∀ c ∈ cs ++ o :: rest, c ∈ components)
    (htarget : Target.ofComponent o.1 o.2 = .model owner)
    (hproperties : propertiesOf o.2 = before ++ x :: after)
    (hupTo : components.upTo cs o.1 owner before {} = .ok ((), m)) {ds : List (Option Model)}
    (h : components.declareAll (cs ++ o :: rest) {} = .ok (ds, last)) :
    m.Sound components ∧ ∃ p next, components.property owner x.1 x.2 m = .ok (p, next) ∧
      next.Grows components last ∧ ∃ model, some model ∈ ds ∧ model.name = owner ∧
        ∃ f ∈ model.fields, f.wireName = x.1 ∧ f.kind = p.kind := by
  obtain ⟨ds₁, declared, claimed, ps, hds, hclaimed, hps⟩ := upTo_eq_ok hupTo
  obtain ⟨ds₁', declared', d, n₂, ds₂, hds', ho, hrest, rfl⟩ := mapM_append_cons_eq_ok h
  change components.declareAll cs {} = _ at hds'
  rw [hds] at hds'
  cases hds'
  obtain ⟨claimed', ps', m', p, next, hclaimed', hps', hp, ⟨ps'', hafter⟩, model, rfl, hmodel⟩ :=
    exists_property_of_declare htarget hproperties ho
  rw [hclaimed] at hclaimed'
  cases hclaimed'
  rw [hps] at hps'
  cases hps'
  obtain ⟨hgrows, -⟩ := gives_declareAll (fun c hc => hcs c (List.mem_append_left _ hc)) {} _ _
    (Names.sound_empty components) hds
  obtain ⟨hgrows₁, -⟩ := Names.grows_of_claimType hgrows.sound (Claiming.claimType_eq_ok hclaimed)
  obtain ⟨hgrows₂, -⟩ := gives_properties owner before claimed ps m hgrows₁.sound hps
  obtain ⟨hgrows₃, -⟩ := gives_property owner x.1 x.2 m p next hgrows₂.sound hp
  obtain ⟨hgrows₄, -⟩ := gives_properties owner after next ps'' n₂ hgrows₃.sound hafter
  obtain ⟨hgrows₅, -⟩ := gives_declareAll
    (fun c hc => hcs c (List.mem_append_right _ (List.mem_cons_of_mem o hc))) n₂ _ _
    hgrows₄.sound hrest
  exact ⟨hgrows₂.sound, p, next, hp, hgrows₄.trans hgrows₅, model,
    List.mem_append_right _ List.mem_cons_self, hmodel⟩

/-- An enumeration component with a free name declares its values under this name. -/
theorem enum?_of_declare (hn : n.Sound components)
    (htarget : Target.ofComponent component s = .enumeration name)
    (hfree : n.types.lookup name = none) {d : Option Model}
    (h : components.declare component s n = .ok (d, next)) :
    next.enum? name = some ⟨name, membersOf (s.enumeration.getD [])⟩ := by
  unfold declare at h
  rw [htarget] at h
  obtain ⟨⟨⟩, claimed, hclaimed, h⟩ := bind_eq_ok h
  obtain ⟨name', declared, hdeclared, h⟩ := bind_eq_ok h
  obtain ⟨-, rfl⟩ := pure_eq_ok h
  obtain ⟨types, -, rfl⟩ := Names.claimType_eq_ok (Claiming.claimType_eq_ok hclaimed)
  obtain ⟨-, i, hdeclared⟩ := Names.namedEnum_eq_ok (withNames_eq_ok hdeclared)
  have hnone : n.byName.lookup name = none := Names.byName_eq_none_of_lookup hn hfree
  exact (Names.declareEnum_of_lookup (n := { n with types := types }) hnone hdeclared).1

/-- A property that lists values in place takes a free name for itself. -/
theorem lookup_of_property {field : String} {values : List Json} {p : Property}
    (hn : n.Sound components) (hreference : s.reference = none) (hlists : ListsInPlace values s)
    (hkey : n.fieldEnums.lookup (field, writtenValues values) = none)
    (hfree : n.types.lookup (Naming.enumName owner field) = none)
    (h : components.property owner field s n = .ok (p, next)) :
    next.types.lookup (Naming.enumName owner field) =
      some ("enum " ++ owner ++ "." ++ field) := by
  obtain ⟨hgiven, hrefused⟩ := property_of_listsInPlace components hreference hlists
    owner field n
  cases hrequest : n.fieldEnum owner field values with
  | error e =>
      rw [hrefused e hrequest] at h
      cases h
  | ok r =>
      obtain ⟨name, last⟩ := r
      obtain ⟨p', hp', -⟩ := hgiven name last hrequest
      rw [hp'] at h
      cases h
      rcases Names.fieldEnum_eq_ok hrequest with
        ⟨i, hfound, -, -⟩ | ⟨-, rfl, i, declared, hdeclared, rfl⟩
      · rw [hkey] at hfound
        cases hfound
      · have hnone := Names.byName_eq_none_of_lookup hn hfree
        exact (Names.declareEnum_of_lookup hnone hdeclared).2

end Components

/-! ## One name for a component and a property -/

/-- The property `x` of the object component `o` lists the values `others` in place, and derives the
class name of the enumeration component `e` for them. -/
structure SharedName (e o x : String × Schema) (owner name : String) (others : List Json) :
    Prop where
  enumeration : Target.ofComponent e.1 e.2 = .enumeration name
  object : Target.ofComponent o.1 o.2 = .model owner
  derived : Naming.enumName owner x.1 = name
  inPlace : x.2.reference = none
  lists : ListsInPlace others x.2

section Order

variable {components first between rest before after : List (String × Schema)}
  {e o x : String × Schema} {owner name : String} {others : List Json} {n m : Names}

/-- The component stands first: at the property, its name is that of an enumeration with its
values. -/
theorem SharedName.enum?_of_upTo (h : SharedName e o x owner name others)
    (hcomponents : components = first ++ e :: between ++ o :: rest) {ds : List (Option Model)}
    (hfirst : Components.declareAll components first {} = .ok (ds, n))
    (hfree : n.types.lookup name = none)
    (hupTo : Components.upTo components (first ++ e :: between) o.1 owner before {} = .ok ((), m)) :
    m.Sound components ∧ m.enum? name = some ⟨name, membersOf (e.2.enumeration.getD [])⟩ := by
  have hmem : ∀ c, c ∈ first ∨ c = e ∨ c ∈ between → c ∈ components := by
    intro c hc
    rw [hcomponents]
    simp only [List.mem_append, List.mem_cons]
    tauto
  obtain ⟨ds', declared, claimed, ps, hds', hclaimed, hps⟩ := Components.upTo_eq_ok hupTo
  obtain ⟨ds₁, n₁, d, n₂, ds₂, hfirst', he, hbetween, -⟩ := mapM_append_cons_eq_ok hds'
  have hsame : Components.declareAll components first {} = .ok (ds₁, n₁) := hfirst'
  rw [hfirst] at hsame
  cases hsame
  obtain ⟨hgrows, -⟩ := Components.gives_declareAll (fun c hc => hmem c (Or.inl hc)) {} _ _
    (Names.sound_empty components) hfirst
  obtain ⟨hgrows₁, -⟩ := gives_declare (hmem e (Or.inr (Or.inl rfl))) n _ _ hgrows.sound he
  have henum := Components.enum?_of_declare hgrows.sound h.enumeration hfree he
  obtain ⟨hgrows₂, -⟩ := Components.gives_declareAll
    (fun c hc => hmem c (Or.inr (Or.inr hc))) n₂ _ _ hgrows₁.sound hbetween
  obtain ⟨hgrows₃, -⟩ := Names.grows_of_claimType hgrows₂.sound (Claiming.claimType_eq_ok hclaimed)
  obtain ⟨hgrows₄, -⟩ := gives_properties owner before claimed ps m hgrows₃.sound hps
  exact ⟨hgrows₄.sound, (((hgrows₂.trans hgrows₃).trans hgrows₄).extended).enum?_eq_some
    hgrows₁.sound.indexed hgrows₄.sound.indexed henum⟩

/-- The component stands first: the property gets the enumeration exactly if the values agree. -/
theorem SharedName.property_of_enum? (h : SharedName e o x owner name others)
    (components : Components) {values : List Json}
    (henum : m.enum? name = some ⟨name, membersOf values⟩)
    (hkey : m.fieldEnums.lookup (x.1, writtenValues others) = none) :
    (Json.sameItems values others = true → ∃ p next,
      Components.property components owner x.1 x.2 m = .ok (p, next) ∧
        Kind.Part (.enumeration name) p.kind ∧ next.enums = m.enums) ∧
    (Json.sameItems values others = false →
      Components.property components owner x.1 x.2 m =
        .error (.enumCollision name values others)) := by
  obtain ⟨hgiven, hrefused⟩ :=
    property_of_listsInPlace components h.inPlace h.lists owner x.1 m
  have henum' : m.enum? (Naming.enumName owner x.1) = some ⟨name, membersOf values⟩ := by
    rw [h.derived, henum]
  obtain ⟨hsame, hdiffer⟩ := Names.fieldEnum_of_enum? hkey henum'
  have hvalues : (⟨name, membersOf values⟩ : Enumeration).values = values :=
    map_value_membersOf values
  rw [h.derived, hvalues] at hsame hdiffer
  constructor
  · intro hequal
    obtain ⟨i, hrequest⟩ := hsame hequal
    obtain ⟨p, hp, hpart⟩ := hgiven _ _ hrequest
    exact ⟨p, _, hp, hpart, rfl⟩
  · intro hunequal
    exact hrefused _ (hdiffer hunequal)

/-- The object stands first: the name belongs to the property when the component claims it. -/
theorem SharedName.models_of_object_first (h : SharedName e o x owner name others)
    (hcomponents : components = first ++ o :: between ++ e :: rest)
    (hproperties : propertiesOf o.2 = before ++ x :: after)
    (hupTo : Components.upTo components first o.1 owner before {} = .ok ((), m))
    (hfree : m.types.lookup name = none)
    (hkey : m.fieldEnums.lookup (x.1, writtenValues others) = none) {ds : List (Option Model)}
    (hds : Components.declareAll components (first ++ o :: between) {} = .ok (ds, n)) :
    Components.models components {} =
      .error (.modelCollision name ("enum " ++ owner ++ "." ++ x.1) (componentOrigin e.1)) := by
  have hcs : ∀ c ∈ first ++ o :: between, c ∈ components := by
    intro c hc
    rw [hcomponents]
    exact List.mem_append_left _ hc
  obtain ⟨hsound, p, next, hp, hgrows, -⟩ :=
    Components.exists_property_of_declareAll hcs h.object hproperties hupTo hds
  have hlookup := Components.lookup_of_property hsound h.inPlace h.lists hkey
    (h.derived.symm ▸ hfree) hp
  rw [h.derived] at hlookup
  refine Components.models_of_declare_error hcomponents hds ?_
  unfold Components.declare
  rw [h.enumeration]
  refine bind_of_error (claimType_of_lookup_ne (hgrows.extended.types _ _ hlookup) ?_) _
  have hne := Holder.text_ne_enum (.component e.1) (owner ++ "." ++ x.1)
  rw [← String.append_assoc, ← String.append_assoc] at hne
  exact hne.symm

end Order

/-- Enumerations of one name collapse into one if their values are equal, and collide if not, as
long as the component stands before the object with the property. If the object stands first, the
run ends with a collision of classes, whatever the values are. In both orders, nothing else has
claimed the name, and no earlier field of the same name has an enumeration with the same values. -/
theorem sharedEnumeration_spec (components : Components) (e o x : String × Schema)
    (owner name : String) (others : List Json) (h : SharedName e o x owner name others) :
    (∀ first between rest before after, components = first ++ e :: between ++ o :: rest →
      propertiesOf o.2 = before ++ x :: after →
      ∀ ds n, components.declareAll first {} = .ok (ds, n) → n.types.lookup name = none →
      ∀ m, components.upTo (first ++ e :: between) o.1 owner before {} = .ok ((), m) →
        m.fieldEnums.lookup (x.1, writtenValues others) = none →
        (Json.sameItems (e.2.enumeration.getD []) others = true →
          (∃ p next, components.property owner x.1 x.2 m = .ok (p, next) ∧
            Kind.Part (.enumeration name) p.kind ∧ next.enums = m.enums) ∧
          ∀ models last, components.models {} = .ok (models, last) →
            last.enums.filter (fun e => e.name == name) =
              [⟨name, membersOf (e.2.enumeration.getD [])⟩] ∧
            ∃ model ∈ models, model.name = owner ∧ ∃ f ∈ model.fields, f.wireName = x.1 ∧
              Kind.Part (.enumeration name) f.kind) ∧
        (Json.sameItems (e.2.enumeration.getD []) others = false →
          components.models {} =
            .error (.enumCollision name (e.2.enumeration.getD []) others))) ∧
    ∀ first between rest before after, components = first ++ o :: between ++ e :: rest →
      propertiesOf o.2 = before ++ x :: after →
      ∀ m, components.upTo first o.1 owner before {} = .ok ((), m) → m.types.lookup name = none →
        m.fieldEnums.lookup (x.1, writtenValues others) = none →
      ∀ ds n, components.declareAll (first ++ o :: between) {} = .ok (ds, n) →
        components.models {} =
          .error (.modelCollision name ("enum " ++ owner ++ "." ++ x.1) (componentOrigin e.1)) := by
  constructor
  · intro first between rest before after hcomponents hproperties ds n hds hfree m hupTo hkey
    obtain ⟨hsound, henum⟩ := h.enum?_of_upTo hcomponents hds hfree hupTo
    obtain ⟨hgiven, hrefused⟩ := h.property_of_enum? components henum hkey
    refine ⟨?_, fun hdiffer => ?_⟩
    · intro hsame
      refine ⟨hgiven hsame, ?_⟩
      intro models last hmodels
      obtain ⟨all, declared, hall, hrun⟩ := bind_eq_ok hmodels
      obtain ⟨rfl, rfl⟩ := pure_eq_ok hrun
      have hcs : ∀ c ∈ (first ++ e :: between) ++ o :: rest, c ∈ components := by
        intro c hc
        rwa [hcomponents]
      have hrun : components.declareAll ((first ++ e :: between) ++ o :: rest) {} =
          .ok (all, declared) := by
        rw [← hcomponents]
        exact hall
      obtain ⟨-, p, next, hp, hgrows, model, hmodel, howner, f, hf, hwire, hkind⟩ :=
        Components.exists_property_of_declareAll hcs h.object hproperties hupTo hrun
      obtain ⟨p', next', hp', hpart, henums⟩ := hgiven hsame
      rw [hp] at hp'
      cases hp'
      have hmem := (hsound.indexed.enum?_eq_some_iff.1 henum).1
      rw [← henums] at hmem
      refine ⟨hgrows.sound.filter_eq (hgrows.extended.enums.subset hmem) rfl, model, ?_, howner, f,
        hf, hwire, hkind ▸ hpart⟩
      simpa using hmodel
    · exact Components.models_of_property_error hcomponents h.object hproperties hupTo
        (hrefused hdiffer)
  · intro first between rest before after hcomponents hproperties m hupTo hfree hkey ds n hds
    exact h.models_of_object_first hcomponents hproperties hupTo hfree hkey hds

/-! ## Pets and their status -/

/-- Whether the stage succeeds and the names that it leaves pass the test. -/
def leaves {α : Type} (m : Claiming α) (test : Names → Bool) : Bool :=
  match m {} with
  | .ok (_, n) => test n
  | .error _ => false

theorem exists_of_leaves {α : Type} {m : Claiming α} {test : Names → Bool}
    (h : leaves m test = true) : ∃ a n, m {} = .ok (a, n) ∧ test n = true := by
  unfold leaves at h
  split at h
  · next a n hm => exact ⟨a, n, hm, h⟩
  · cases h

/-- A pet whose status is one of two texts. -/
def pet : String × Schema :=
  ("Pet", { type := some (.one "object"), properties := some [("status", choice ["a", "b"])] })

/-- An enumeration that is called like that of a pet's status. -/
def petStatus (texts : List String) : String × Schema := ("PetStatusEnum", choice texts)

theorem sharedName_pet (text : String) (texts : List String) :
    SharedName (petStatus (text :: texts)) pet ("status", choice ["a", "b"]) "Pet" "PetStatusEnum"
      [.string "a", .string "b"] where
  enumeration := by
    have hname : Naming.modelName "PetStatusEnum" = "PetStatusEnum" := by decide +kernel
    rw [Target.ofComponent, petStatus, hname]
    rfl
  object := by
    have hname : Naming.modelName "Pet" = "Pet" := by decide +kernel
    rw [Target.ofComponent, pet, hname]
    rfl
  derived := by decide +kernel
  inPlace := rfl
  lists := .text rfl rfl

theorem sharedEnumeration_spec_pet :
    (∃ models last, Components.models [petStatus ["a", "b"], pet] {} = .ok (models, last) ∧
      last.enums.filter (fun e => e.name == "PetStatusEnum") =
        [⟨"PetStatusEnum", membersOf [.string "a", .string "b"]⟩]) ∧
    Components.models [petStatus ["c"], pet] {} =
      .error (.enumCollision "PetStatusEnum" [.string "c"] [.string "a", .string "b"]) ∧
    Components.models [pet, petStatus ["a", "b"]] {} =
      .error (.modelCollision "PetStatusEnum" "enum Pet.status"
        "components.schemas.PetStatusEnum") := by
  refine ⟨?_, ?_, ?_⟩
  · have hleaves : leaves (Components.upTo [petStatus ["a", "b"], pet] [petStatus ["a", "b"]]
        "Pet" "Pet" []) (fun m => m.fieldEnums.isEmpty) = true := by decide +kernel
    have hruns : leaves (Components.models [petStatus ["a", "b"], pet]) (fun _ => true) = true := by
      decide +kernel
    obtain ⟨⟨⟩, m, hupTo, hkeys⟩ := exists_of_leaves hleaves
    obtain ⟨models, last, hmodels, -⟩ := exists_of_leaves hruns
    obtain ⟨hfirst, -⟩ := sharedEnumeration_spec _ _ _ _ _ _ _ (sharedName_pet "a" ["b"])
    obtain ⟨hsame, -⟩ := hfirst [] [] [] [] [] rfl rfl [] {} rfl rfl m hupTo
      (by rw [List.isEmpty_iff.1 hkeys]; rfl)
    exact ⟨models, last, hmodels, ((hsame rfl).2 models last hmodels).1⟩
  · have hleaves : leaves (Components.upTo [petStatus ["c"], pet] [petStatus ["c"]] "Pet" "Pet" [])
        (fun m => m.fieldEnums.isEmpty) = true := by decide +kernel
    obtain ⟨⟨⟩, m, hupTo, hkeys⟩ := exists_of_leaves hleaves
    obtain ⟨hfirst, -⟩ := sharedEnumeration_spec _ _ _ _ _ _ _ (sharedName_pet "c" [])
    exact (hfirst [] [] [] [] [] rfl rfl [] {} rfl rfl m hupTo
      (by rw [List.isEmpty_iff.1 hkeys]; rfl)).2 rfl
  · have hleaves : leaves (Components.upTo [pet, petStatus ["a", "b"]] [] "Pet" "Pet" [])
        (fun m => (m.types.lookup "PetStatusEnum").isNone && m.fieldEnums.isEmpty) = true := by
      decide +kernel
    have hruns : leaves (Components.declareAll [pet, petStatus ["a", "b"]] [pet])
        (fun _ => true) = true := by decide +kernel
    obtain ⟨⟨⟩, m, hupTo, htest⟩ := exists_of_leaves hleaves
    obtain ⟨hfree, hkeys⟩ := Bool.and_eq_true_iff.1 htest
    obtain ⟨ds, n, hds, -⟩ := exists_of_leaves hruns
    obtain ⟨-, hsecond⟩ := sharedEnumeration_spec _ _ _ _ _ _ _ (sharedName_pet "a" ["b"])
    exact hsecond [] [] [] [] [] rfl rfl m hupTo (Option.isNone_iff_eq_none.1 hfree)
      (by rw [List.isEmpty_iff.1 hkeys]; rfl) ds n hds

/-- A document of component schemas alone. -/
def schemasAlone (schemas : List (String × Json)) : Json := .object [
  ("openapi", .string "3.0.0"),
  ("paths", .object []),
  ("components", .object [("schemas", .object schemas)])]

/-- A text with the given values, as it stands in a document. -/
def writtenTextOf (values : List Json) : Json :=
  .object [("type", .string "string"), ("enum", .array values)]

def writtenPet : Json := .object [
  ("type", .string "object"),
  ("properties", .object [("status", writtenTextOf [.string "a", .string "b"])])]

/-- Whether the value is a document that has no plan, because of this collision of classes. -/
def collides (root : Json) (name first second : String) : Bool :=
  match Document.ofJson root with
  | .ok d =>
    match build d {} with
    | .error (.modelCollision name' first' second') =>
      name' == name && first' == first && second' == second
    | _ => false
  | .error _ => false

theorem exists_of_collides {root : Json} {name first second : String}
    (h : collides root name first second = true) :
    ∃ d, Document.ofJson root = .ok d ∧
      build d {} = .error (.modelCollision name first second) := by
  unfold collides at h
  split at h
  · next d hd =>
      split at h
      · next name' first' second' herror =>
          simp only [Bool.and_eq_true, beq_iff_eq] at h
          obtain ⟨⟨rfl, rfl⟩, rfl⟩ := h
          exact ⟨d, hd, herror⟩
      · cases h
  · cases h

theorem build_petBeforeStatus :
    (∃ d, Document.ofJson (schemasAlone [("Pet", writtenPet),
        ("PetStatusEnum", writtenTextOf [.string "a", .string "b"])]) = .ok d ∧
      build d {} = .error (.modelCollision "PetStatusEnum" "enum Pet.status"
        "components.schemas.PetStatusEnum")) ∧
    (∃ d, Document.ofJson (schemasAlone [("Pet", writtenPet),
        ("PetStatusEnum", writtenTextOf [.string "c"])]) = .ok d ∧
      build d {} = .error (.modelCollision "PetStatusEnum" "enum Pet.status"
        "components.schemas.PetStatusEnum")) ∧
    ∃ d p, Document.ofJson (schemasAlone [
        ("PetStatusEnum", writtenTextOf [.string "a", .string "b"]), ("Pet", writtenPet)]) = .ok d ∧
      build d {} = .ok p ∧ p.enums.map Enumeration.name = ["PetStatusEnum"] := by
  refine ⟨exists_of_collides (by decide +kernel), exists_of_collides (by decide +kernel), ?_⟩
  have hgenerates : generates (schemasAlone [
      ("PetStatusEnum", writtenTextOf [.string "a", .string "b"]), ("Pet", writtenPet)]) {}
      (fun p => p.enums.map Enumeration.name == ["PetStatusEnum"]) = true := by decide +kernel
  obtain ⟨d, p, hd, hp, hnames⟩ := exists_of_generates hgenerates
  exact ⟨d, p, hd, hp, eq_of_beq hnames⟩

end TypedClient.Plan
