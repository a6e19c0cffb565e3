import TypedClient.Proofs.Plan.AliasChains
import TypedClient.Proofs.Plan.Draft

/-!
# Aliases in bodies

An alias component says of the values of a body what its own schema says, so a reference to it and
that schema should give the same shape. They do where the body itself is the reference, and where
the values of a map are: more looks than a chain of aliases needs change nothing
(`bodyShapeFrom_succ`, `primitiveFrom_succ`). The items of a list are different. Only a reference
that names an object component itself makes a list of models; behind an alias the items have no
shape at all, while a property with the same items is a list of that model (`bodyShape_write_spec`).
-/

namespace TypedClient.Plan

open OpenApi (Document Schema)
open Claiming

namespace Components

/-! ## Lengths of chains -/

section Chains

variable (components : Components)

/-- The chain of aliases that starts at the schema ends after `n` of them at the most. -/
inductive EndsWithin : (n : Nat) → Schema → Prop where
  | last {n : Nat} {s : Schema} (h : ∀ named, ¬components.AliasFor s named) : EndsWithin n s
  | next {n : Nat} {s named : Schema} (halias : components.AliasFor s named)
      (h : EndsWithin n named) : EndsWithin (n + 1) s

/-- The schema refers to a model through `n` aliases. -/
inductive LeadsTo : (n : Nat) → Schema → String → Prop where
  | direct {s : Schema} {name : String} (h : components.ModelFor s name) : LeadsTo 0 s name
  | next {n : Nat} {s named : Schema} {name : String} (halias : components.AliasFor s named)
      (h : LeadsTo n named name) : LeadsTo (n + 1) s name

end Chains

variable {components : Components}

/-- Behind its first alias, a chain is shorter by one. -/
theorem EndsWithin.exists_of_aliasFor {n : Nat} {s named : Schema} (h : components.EndsWithin n s)
    (halias : components.AliasFor s named) : ∃ k, n = k + 1 ∧ components.EndsWithin k named := by
  cases h with
  | last hlast => exact absurd halias (hlast named)
  | next halias' h =>
      rw [halias.unique halias']
      exact ⟨_, rfl, h⟩

/-- A chain that leads to a model ends there. -/
theorem LeadsTo.exists_endsAt {n : Nat} {s : Schema} {name : String}
    (h : components.LeadsTo n s name) :
    ∃ aliases, aliases.length = n ∧ components.EndsAt aliases s (.model name) := by
  induction h with
  | direct hmodel =>
      obtain ⟨reference, hreference, htarget⟩ := hmodel
      exact ⟨[], rfl, .direct hreference htarget trivial⟩
  | @next n s named name halias _ ih =>
      obtain ⟨aliases, rfl, hends⟩ := ih
      exact ⟨named :: aliases, rfl, .next halias hends⟩

/-! ## Looks that are left over -/

theorem primitiveFrom_succ {n follows : Nat} {s : Schema} (h : components.EndsWithin n s)
    (hn : n < follows) :
    components.primitiveFrom (follows + 1) s = components.primitiveFrom follows s := by
  induction h generalizing follows with
  | @last n s hlast =>
      obtain ⟨follows, rfl⟩ := Nat.exists_eq_add_of_lt hn
      rw [primitiveFrom, primitiveFrom]
      cases hreference : s.reference with
      | none => rfl
      | some reference =>
          cases htarget : components.target reference with
          | error e => simp only [htarget]
          | ok t =>
              cases t with
              | aliasOf named => exact absurd ⟨reference, hreference, htarget⟩ (hlast named)
              | _ => simp only [htarget]
  | @next n s named halias h ih =>
      obtain ⟨k, rfl⟩ := Nat.exists_eq_succ_of_ne_zero (Nat.ne_zero_of_lt hn)
      rw [primitiveFrom_of_aliasFor halias, primitiveFrom_of_aliasFor halias]
      exact ih (Nat.lt_of_succ_lt_succ hn)

theorem bodyShapeFrom_succ {n looks : Nat} {s : Schema} (h : components.EndsWithin n s)
    (hn : n < looks) :
    components.bodyShapeFrom (looks + 1) s = components.bodyShapeFrom looks s := by
  induction h generalizing looks with
  | @last n s hlast =>
      obtain ⟨k, rfl⟩ := Nat.exists_eq_succ_of_ne_zero (Nat.ne_zero_of_lt hn)
      rw [bodyShapeFrom, bodyShapeFrom]
      cases hitems : s.items with
      | some items => rfl
      | none =>
          cases hreference : s.reference with
          | none => rfl
          | some reference =>
              cases htarget : components.target reference with
              | error e => simp only [htarget]
              | ok t =>
                  cases t with
                  | aliasOf named => exact absurd ⟨reference, hreference, htarget⟩ (hlast named)
                  | _ => simp only [htarget]
  | @next n s named halias h ih =>
      obtain ⟨k, rfl⟩ := Nat.exists_eq_succ_of_ne_zero (Nat.ne_zero_of_lt hn)
      cases hitems : s.items with
      | some items =>
          rw [bodyShapeFrom, bodyShapeFrom]
          simp only [hitems]
      | none =>
          rw [bodyShapeFrom_of_aliasFor hitems halias, bodyShapeFrom_of_aliasFor hitems halias]
          exact ih (Nat.lt_of_succ_lt_succ hn)

/-! ## One alias less -/

theorem primitive?_of_aliasFor {s named : Schema} (h : components.AliasFor s named)
    (hchain : components.EndsWithin maxAliases s) :
    components.primitive? s = components.primitive? named := by
  obtain ⟨k, hk, hnamed⟩ := hchain.exists_of_aliasFor h
  rw [primitive?, primitive?, primitiveFrom_of_aliasFor h, primitiveFrom_succ hnamed (by omega)]

theorem bodyShape_of_aliasFor {s named : Schema} (hitems : s.items = none)
    (h : components.AliasFor s named) (hchain : components.EndsWithin maxAliases s) :
    components.bodyShape s = components.bodyShape named := by
  obtain ⟨k, hk, hnamed⟩ := hchain.exists_of_aliasFor h
  rw [bodyShape, bodyShape, bodyShapeFrom_of_aliasFor hitems h,
    bodyShapeFrom_succ hnamed (by omega)]

/-! ## Lists -/

theorem primitive?_of_modelFor {s : Schema} {name : String} (h : components.ModelFor s name) :
    components.primitive? s = .ok none := by
  obtain ⟨reference, hreference, htarget⟩ := h
  rw [primitive?, primitiveFrom]
  simp only [hreference, htarget]

theorem listShape_of_modelFor {items : Schema} {name : String}
    (h : components.ModelFor items name) :
    components.listShape items = .ok (.typed (.modelList name)) := by
  obtain ⟨reference, hreference, htarget⟩ := h
  rw [listShape]
  simp only [hreference, htarget]
  rfl

/-- Items that are no reference to a model make a list of what they are, if that is a primitive. -/
theorem listShape_of_not_modelFor {items : Schema} (h : ∀ name, ¬components.ModelFor items name) :
    components.listShape items =
      (components.primitive? items).map fun p => .ofType? (p.map .primitiveList) := by
  rw [listShape]
  cases hreference : items.reference with
  | none => cases components.primitive? items <;> rfl
  | some reference =>
      cases htarget : components.target reference with
      | error e =>
          have herror : components.primitive? items = .error e := by
            rw [primitive?, primitiveFrom]
            simp only [hreference, htarget]
          rw [herror]
          simp only [htarget]
          rfl
      | ok t =>
          cases t with
          | model name => exact absurd ⟨reference, hreference, htarget⟩ (h name)
          | _ =>
              simp only [htarget]
              cases components.primitive? items <;> rfl

theorem bodyShape_of_items {s items : Schema} (h : s.items = some items) :
    components.bodyShape s = components.listShape items := by
  rw [bodyShape, bodyShapeFrom]
  simp only [h]

/-- An alias among the items makes no difference, unless it is one for a model. -/
theorem listShape_eq_iff_of_aliasFor {items named : Schema} (h : components.AliasFor items named)
    (hchain : components.EndsWithin maxAliases items) :
    components.listShape items = components.listShape named ↔
      ¬∃ name, components.ModelFor named name := by
  rw [listShape_of_not_modelFor (not_modelFor_of_aliasFor h), primitive?_of_aliasFor h hchain]
  constructor
  · rintro heq ⟨name, hmodel⟩
    rw [listShape_of_modelFor hmodel, primitive?_of_modelFor hmodel] at heq
    cases heq
  · intro hmodel
    rw [listShape_of_not_modelFor (not_exists.1 hmodel)]

/-- Items that lead to a model make a list of it only if no alias is between. -/
theorem listShape_of_leadsTo {n : Nat} {items : Schema} {name : String}
    (h : components.LeadsTo n items name) (hn : n ≤ maxAliases) :
    components.listShape items =
      .ok (if n = 0 then .typed (.modelList name) else .unmatched) := by
  cases h with
  | direct hmodel => exact listShape_of_modelFor hmodel
  | next halias h =>
      obtain ⟨aliases, hlength, hends⟩ := (LeadsTo.next halias h).exists_endsAt
      rw [listShape_of_not_modelFor (not_modelFor_of_aliasFor halias),
        primitive?_of_endsAt hends (Nat.le_trans (Nat.le_of_eq hlength) hn)]
      rfl

/-! ## Properties -/

/-- A list property has the kind of a list of the model that its items lead to. -/
theorem property_of_leadsTo {n : Nat} {s items : Schema} {name : String}
    (hreference : s.reference = none) (htype : s.primaryType? = some "array")
    (hitems : s.items = some items) (h : components.LeadsTo n items name) (hn : n ≤ maxAliases)
    (owner field : String) (names : Names) :
    components.property owner field s names = .ok
      (⟨.list (.model name false), s.isNullable, .ofFlags s.readOnly s.writeOnly⟩, names) := by
  obtain ⟨aliases, rfl, hends⟩ := h.exists_endsAt
  obtain ⟨reference, hfirst⟩ := hends.exists_reference
  obtain ⟨kind, rfl, hfollow⟩ := referenceKind_of_endsAt hends hfirst hn owner field
  rw [property, hreference]
  simp only
  rw [inlineKind_of_array htype hitems, hfirst]
  simp only
  rw [hfollow]
  rfl

/-! ## References written out -/

/-- Where a body may refer to an alias. -/
inductive Place where
  | body
  /-- The items of a list. -/
  | items
  /-- The values of a map. -/
  | values
  deriving DecidableEq

namespace Place

/-- The schema at a place. The body itself counts only if it has no items, which come first. -/
def schema? : Place → Schema → Option Schema
  | body, s => if s.items.isNone then some s else none
  | items, s => s.items
  | values, s => s.additional.bind OpenApi.Additional.schema?

/-- Writes a schema at a place. -/
def write : Place → Schema → Schema → Schema
  | body, _, written => written
  | items, s, written => { s with items := some written }
  | values, s, written => { s with additional := some (.schema written) }

end Place

/-- An alias for the values of a map makes no difference. -/
theorem bodyShape_write_values {s values named : Schema}
    (hvalues : s.additional = some (.schema values)) (h : components.AliasFor values named)
    (hchain : components.EndsWithin maxAliases values) :
    components.bodyShape s = components.bodyShape (Place.values.write s named) := by
  have hself : components.primitive? (Place.values.write s named) = components.primitive? s := by
    rw [primitive?, primitive?, primitiveFrom, primitiveFrom]
    rfl
  have hplain : components.plainShape s = components.plainShape (Place.values.write s named) := by
    unfold plainShape
    rw [hself, hvalues]
    change (do let values ← components.primitive? values; _) =
      (do let values ← components.primitive? named; _)
    rw [primitive?_of_aliasFor h hchain]
    rfl
  unfold bodyShape bodyShapeFrom
  rw [hplain]
  rfl

/-- A reference to an alias and the schema of the alias give a body the same shape, except for a
reference among items to an alias that stands for a model; a reference beside items is not looked
at. Items that lead to a model through any alias have no shape, whereas a property with these items
is a list of the model. -/
theorem bodyShape_write_spec (components : Components) :
    (∀ (place : Place) (s referring named : Schema), place.schema? s = some referring →
      components.AliasFor referring named → components.EndsWithin maxAliases referring →
        (components.bodyShape s = components.bodyShape (place.write s named) ↔
          ¬(place = .items ∧ ∃ name, components.ModelFor named name))) ∧
    (∀ (s : Schema) (reference : Option String), s.items.isSome = true →
      components.bodyShape { s with reference := reference } = components.bodyShape s) ∧
    ∀ (s items : Schema) (n : Nat) (name : String), s.items = some items →
      components.LeadsTo n items name → n ≤ maxAliases →
        components.bodyShape s = .ok (if n = 0 then .typed (.modelList name) else .unmatched) ∧
        (s.reference = none → s.primaryType? = some "array" → ∀ owner field names,
          components.property owner field s names = .ok
            (⟨.list (.model name false), s.isNullable, .ofFlags s.readOnly s.writeOnly⟩,
              names)) := by
  refine ⟨?_, ?_, ?_⟩
  · intro place s referring named hplace halias hchain
    cases place with
    | body =>
        obtain ⟨hitems, hself⟩ := Option.ite_none_right_eq_some.1 hplace
        cases hself
        have heq := bodyShape_of_aliasFor (Option.isNone_iff_eq_none.1 hitems) halias hchain
        exact ⟨fun _ => by simp, fun _ => heq⟩
    | items =>
        have hwritten : (Place.items.write s named).items = some named := rfl
        rw [bodyShape_of_items hplace, bodyShape_of_items hwritten,
          listShape_eq_iff_of_aliasFor halias hchain]
        simp
    | values =>
        obtain ⟨additional, hadditional, hschema⟩ := Option.bind_eq_some_iff.1 hplace
        cases additional with
        | flag _ => cases hschema
        | schema values =>
            cases hschema
            have heq := bodyShape_write_values hadditional halias hchain
            exact ⟨fun _ => by simp, fun _ => heq⟩
  · intro s reference hsome
    obtain ⟨items, hitems⟩ := Option.isSome_iff_exists.1 hsome
    rw [bodyShape_of_items hitems]
    exact bodyShape_of_items hitems
  · intro s items n name hitems hleads hn
    refine ⟨?_, fun hreference htype owner field names => ?_⟩
    · rw [bodyShape_of_items hitems]
      exact listShape_of_leadsTo hleads hn
    · exact property_of_leadsTo hreference htype hitems hleads hn owner field names

/-! ## Lists of animals -/

/-- An object, an alias for it and a text. -/
def animals : Components := [
  ("Pet", {
    type := some (.one "object")
    properties := some [("id", { type := some (.one "integer") })] }),
  ("Animal", { reference := some "#/components/schemas/Pet" }),
  ("Label", { type := some (.one "string") })]

/-- A list of what a reference stands for. -/
def listOf (reference : String) : Schema where
  type := some (.one "array")
  items := some { reference := some reference }

theorem bodyShape_write_spec_animals :
    (animals.EndsWithin maxAliases { reference := some "#/components/schemas/Label" } ∧
      animals.bodyShape (listOf "#/components/schemas/Label") = animals.bodyShape
        (Place.items.write (listOf "#/components/schemas/Label")
          { type := some (.one "string") })) ∧
    animals.bodyShape { listOf "#/components/schemas/Label" with
        reference := some "#/components/schemas/Animal" } =
      animals.bodyShape (listOf "#/components/schemas/Label") ∧
    animals.LeadsTo 1 { reference := some "#/components/schemas/Animal" } "Pet" ∧
      animals.bodyShape (listOf "#/components/schemas/Animal") = .ok .unmatched ∧
      animals.property "Owner" "pets" (listOf "#/components/schemas/Animal") {} =
        .ok (⟨.list (.model "Pet" false), false, .standard⟩, {}) := by
  have hlabel : animals.AliasFor { reference := some "#/components/schemas/Label" }
      { type := some (.one "string") } := ⟨_, rfl, rfl⟩
  have hends : animals.EndsWithin maxAliases
      { reference := some "#/components/schemas/Label" } := by
    refine .next (n := 15) hlabel (.last ?_)
    rintro named ⟨reference, hreference, -⟩
    cases hreference
  have hpet : animals.LeadsTo 1 { reference := some "#/components/schemas/Animal" } "Pet" :=
    .next ⟨_, rfl, rfl⟩ (.direct ⟨_, rfl, rfl⟩)
  obtain ⟨hwritten, hbeside, hlisted⟩ := bodyShape_write_spec animals
  obtain ⟨hshape, hproperty⟩ := hlisted (listOf "#/components/schemas/Animal") _ 1 "Pet" rfl hpet
    (by decide)
  refine ⟨⟨hends, (hwritten .items _ _ _ rfl hlabel hends).2 ?_⟩, hbeside _ _ rfl, hpet, hshape,
    hproperty rfl rfl "Owner" "pets" {}⟩
  rintro ⟨-, name, reference, hreference, -⟩
  cases hreference

/-- A document with these components and an operation that answers with a list. -/
def animalsDocument (reference : String) : Json := .object [
  ("openapi", .string "3.0.0"),
  ("paths", .object [("/pets", .object [("get", .object [
    ("operationId", .string "x"),
    ("responses", .object [("200", .object [
      ("description", .string "d"),
      ("content", .object [("application/json", .object [("schema", .object [
        ("type", .string "array"),
        ("items", .object [("$ref", .string reference)])])])])])])])])]),
  ("components", .object [("schemas", .object [
    ("Pet", .object [
      ("type", .string "object"),
      ("properties", .object [("id", .object [("type", .string "integer")])])]),
    ("Animal", .object [("$ref", .string "#/components/schemas/Pet")])])])]

theorem bodyShape_listOfAnimals :
    (∃ d p, Document.ofJson (animalsDocument "#/components/schemas/Animal") = .ok d ∧
      build d {} = .ok p ∧ (p.calls.map fun c => c.response.bind TypeRef.model?) = [none]) ∧
    (∃ d p, Document.ofJson (animalsDocument "#/components/schemas/Pet") = .ok d ∧
      build d {} = .ok p ∧ (p.calls.map fun c => c.response.bind TypeRef.model?) = [some "Pet"]) ∧
    animals.AliasFor { reference := some "#/components/schemas/Animal" }
      { reference := some "#/components/schemas/Pet" } ∧
    ¬animals.bodyShape (listOf "#/components/schemas/Animal") = animals.bodyShape
      (Place.items.write (listOf "#/components/schemas/Animal")
        { reference := some "#/components/schemas/Pet" }) := by
  have hall : generates (animalsDocument "#/components/schemas/Animal") {} (fun p =>
      (p.calls.map fun c => c.response.bind TypeRef.model?) == [none]) = true := by decide +kernel
  have hpet : generates (animalsDocument "#/components/schemas/Pet") {} (fun p =>
      (p.calls.map fun c => c.response.bind TypeRef.model?) == [some "Pet"]) = true := by
    decide +kernel
  obtain ⟨d, p, hd, hp, hresponse⟩ := exists_of_generates hall
  obtain ⟨d', p', hd', hp', hresponse'⟩ := exists_of_generates hpet
  refine ⟨⟨d, p, hd, hp, eq_of_beq hresponse⟩, ⟨d', p', hd', hp', eq_of_beq hresponse'⟩,
    ⟨_, rfl, rfl⟩, ?_⟩
  have hshape : animals.bodyShape (listOf "#/components/schemas/Animal") = .ok .unmatched := rfl
  have hshape' : animals.bodyShape (Place.items.write (listOf "#/components/schemas/Animal")
      { reference := some "#/components/schemas/Pet" }) = .ok (.typed (.modelList "Pet")) := rfl
  rw [hshape, hshape']
  intro heq
  cases heq

end Components

end TypedClient.Plan
