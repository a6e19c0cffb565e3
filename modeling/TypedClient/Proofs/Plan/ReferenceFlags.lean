import TypedClient.Proofs.Plan.Draft
import TypedClient.Proofs.Plan.Fields

/-!
# Flags of references

A property that is a reference has the kind of what stands at the end of its chain of aliases
(`exists_passes_of_referenceKind`). Whether null is a value and in which direction the property is
sent, however, is read off the property itself and the component that it names directly. A flag that
only the schemas behind that component carry is lost (`property_flags_spec`), although the kind is
found there.
-/

namespace TypedClient.Plan

open OpenApi (Document Schema)
open Claiming

/-! ## Schemas behind a reference -/

/-- The reference names a component with the first schema. Where this is an alias for another
reference, the chain goes on there; its last schema is that of the component that the reference
finally stands for. -/
inductive Components.Passes (components : Components) : String → List Schema → Prop where
  | last {reference component : String} {s : Schema}
      (hfind : components.find reference = .ok (component, s))
      (hends : ∀ next, Target.ofComponent component s = .aliasOf s → s.reference ≠ some next) :
      Passes components reference [s]
  | next {reference component next : String} {s : Schema} {rest : List Schema}
      (hfind : components.find reference = .ok (component, s))
      (halias : Target.ofComponent component s = .aliasOf s) (hnext : s.reference = some next)
      (hrest : Passes components next rest) : Passes components reference (s :: rest)

/-- Of a property and the schemas that its reference passes, only those behind the first carry the
flag. -/
def onlyBehind (flag : Schema → Bool) (s first : Schema) (rest : List Schema) : Bool :=
  !(flag s || flag first) && rest.any flag

section Flags

variable {components : Components} {reference : String}

theorem Components.Passes.find_eq {first : Schema} {rest : List Schema}
    (h : components.Passes reference (first :: rest)) :
    ∃ component, components.find reference = .ok (component, first) := by
  cases h with
  | last hfind => exact ⟨_, hfind⟩
  | next hfind => exact ⟨_, hfind⟩

/-- A reference that has a kind passes the schemas of some chain. -/
theorem exists_passes_of_referenceKind {owner field : String} {looks aliases : Nat} {kind : Kind}
    (h : Yields (referenceKind components owner field looks aliases reference) kind) :
    ∃ first rest, components.Passes reference (first :: rest) := by
  induction looks generalizing aliases reference kind with
  | zero => exact absurd h not_yields_throw
  | succ looks ih =>
      unfold referenceKind at h
      split at h
      · exact absurd h not_yields_throw
      · obtain ⟨t, ht, h⟩ := exists_yields_of_bind h
        obtain ⟨component, s, hfind, rfl⟩ := Components.target_eq_ok (eq_ok_of_yields_lift ht)
        by_cases hends : ∀ next,
          Target.ofComponent component s = .aliasOf s → s.reference ≠ some next
        · exact ⟨s, [], .last hfind hends⟩
        · push Not at hends
          obtain ⟨next, halias, hnext⟩ := hends
          rw [halias] at h
          simp only [hnext] at h
          obtain ⟨second, rest, hrest⟩ := ih h
          exact ⟨s, second :: rest, .next hfind halias hnext hrest⟩

theorem exists_passes_of_property {owner field : String} {s : Schema} {p : Property}
    (hreference : s.reference = some reference)
    (h : Yields (components.property owner field s) p) :
    ∃ first rest, components.Passes reference (first :: rest) := by
  unfold Components.property at h
  simp only [hreference] at h
  obtain ⟨found, -, h⟩ := exists_yields_of_bind h
  obtain ⟨kind, hkind, -⟩ := exists_yields_of_bind h
  exact exists_passes_of_referenceKind hkind

theorem named?_of_passes {s first : Schema} {rest : List Schema}
    (hreference : s.reference = some reference)
    (h : components.Passes reference (first :: rest)) : components.named? s = some first := by
  obtain ⟨component, hfind⟩ := h.find_eq
  rw [Components.named?, hreference]
  simp only [hfind]
  rfl

/-! ## Flags that are lost -/

theorem any_eq_iff_onlyBehind (flag : Schema → Bool) (s first : Schema) (rest : List Schema) :
    ((flag s || flag first) = (s :: first :: rest).any flag) ↔
      onlyBehind flag s first rest = false := by
  rw [List.any_cons, List.any_cons, ← Bool.or_assoc, onlyBehind]
  cases flag s || flag first <;> cases rest.any flag <;> decide

/-- Flags that are lost change the direction unless both of them are, since both together say
nothing. -/
theorem ofFlags_eq_iff_onlyBehind (s first : Schema) (rest : List Schema) :
    Visibility.ofFlags (s.readOnly || first.readOnly) (s.writeOnly || first.writeOnly) =
        .ofFlags ((s :: first :: rest).any Schema.readOnly)
          ((s :: first :: rest).any Schema.writeOnly) ↔
      onlyBehind Schema.readOnly s first rest = onlyBehind Schema.writeOnly s first rest := by
  simp only [List.any_cons, ← Bool.or_assoc, onlyBehind]
  cases s.readOnly || first.readOnly <;> cases s.writeOnly || first.writeOnly <;>
    cases rest.any Schema.readOnly <;> cases rest.any Schema.writeOnly <;> decide

end Flags

/-- A property that is a reference passes the schemas of a chain, and its flags are those of the
property itself and of the first schema that it passes. They are the flags of the whole chain
exactly if none of them is carried only by the schemas behind the first, where read-only and
write-only are lost together or not at all. -/
theorem property_flags_spec {components : Components} {owner field reference : String} {s : Schema}
    {names next : Names} {p : Property} (hreference : s.reference = some reference)
    (h : components.property owner field s names = .ok (p, next)) :
    (∃ first rest, components.Passes reference (first :: rest)) ∧
    ∀ first rest, components.Passes reference (first :: rest) →
      p.nullable = (s.isNullable || first.isNullable) ∧
      p.visibility =
        .ofFlags (s.readOnly || first.readOnly) (s.writeOnly || first.writeOnly) ∧
      (p.nullable = (s :: first :: rest).any Schema.isNullable ↔
        onlyBehind Schema.isNullable s first rest = false) ∧
      (p.visibility = .ofFlags ((s :: first :: rest).any Schema.readOnly)
          ((s :: first :: rest).any Schema.writeOnly) ↔
        onlyBehind Schema.readOnly s first rest = onlyBehind Schema.writeOnly s first rest) := by
  have hyields := yields_of_ok h
  refine ⟨exists_passes_of_property hreference hyields, fun first rest hpasses => ?_⟩
  have hnamed := named?_of_passes hreference hpasses
  have hnullable : p.nullable = (s.isNullable || first.isNullable) := by
    rw [(property_of_yields hyields).nullable_eq, Components.nullable, hnamed, Option.any_some]
  have hvisibility : p.visibility =
      .ofFlags (s.readOnly || first.readOnly) (s.writeOnly || first.writeOnly) := by
    rw [(property_of_yields hyields).visibility_eq, Components.visibility, hnamed, Option.any_some,
      Option.any_some]
  refine ⟨hnullable, hvisibility, ?_, ?_⟩
  · rw [hnullable]
    exact any_eq_iff_onlyBehind _ _ _ _
  · rw [hvisibility]
    exact ofFlags_eq_iff_onlyBehind _ _ _

/-! ## Colours -/

/-- A reference to a component. -/
def refTo (component : String) : Schema where
  reference := some (Naming.schemaPointer ++ component)

/-- The colours, or none. -/
def colour : Schema where
  type := some (.one "string")
  enumeration := some [.string "red", .string "green"]
  nullable := true

/-- The colours behind two aliases, of which the second is read-only. -/
def colours : Components := [
  ("Paint", refTo "Shade"),
  ("Shade", { refTo "Colour" with readOnly := true }),
  ("Colour", colour)]

theorem passes_paint : colours.Passes (Naming.schemaPointer ++ "Paint")
    [refTo "Shade", { refTo "Colour" with readOnly := true }, colour] := by
  have hcolour : colours.Passes (Naming.schemaPointer ++ "Colour") [colour] := by
    refine .last rfl fun next halias => ?_
    cases halias
  exact .next rfl rfl rfl (.next rfl rfl rfl hcolour)

theorem property_flags_spec_paint : ∃ p,
    colours.property "Pet" "paint" { refTo "Paint" with nullable := true } {} = .ok (p, {}) ∧
    p.nullable = true ∧ p.visibility = .standard ∧
    p.nullable = [{ refTo "Paint" with nullable := true }, refTo "Shade",
      { refTo "Colour" with readOnly := true }, colour].any Schema.isNullable ∧
    p.visibility ≠ .readOnly := by
  have hproperty : colours.property "Pet" "paint" { refTo "Paint" with nullable := true } {} =
      .ok (⟨.enumeration "Colour", true, .standard⟩, {}) := rfl
  obtain ⟨hnullable, hvisibility, hnull, hdirection⟩ :=
    (property_flags_spec rfl hproperty).2 _ _ passes_paint
  refine ⟨_, hproperty, ?_⟩
  exact ⟨hnullable, hvisibility, hnull.2 rfl, fun heq => absurd (hdirection.1 heq) (by decide)⟩

/-- A document in which a pet has to have a colour, by a reference to a component. -/
def petDocument (component : String) : Json := .object [
  ("paths", .object []),
  ("components", .object [("schemas", .object [
    ("Pet", .object [
      ("type", .string "object"),
      ("required", .array [.string "colour"]),
      ("properties", .object [("colour", .object [
        ("$ref", .string (Naming.schemaPointer ++ component))])])]),
    ("Shade", .object [("$ref", .string (Naming.schemaPointer ++ "Colour"))]),
    ("Colour", .object [
      ("type", .string "string"),
      ("enum", .array [.string "red", .string "green"]),
      ("nullable", .bool true)])])])]

/-- For each model, whether its fields may be null, and the fields that it checks. -/
def nullChecks (p : TypedClient.Plan) : List (List Bool × List String) :=
  p.models.map fun m => (m.fields.map Field.nullable, m.validators.map Validator.field)

theorem property_nullableBehindAlias :
    (∃ d p, Document.ofJson (petDocument "Shade") = .ok d ∧ build d {} = .ok p ∧
      nullChecks p = [([false], ["colour"])]) ∧
    (∃ d p, Document.ofJson (petDocument "Colour") = .ok d ∧ build d {} = .ok p ∧
      nullChecks p = [([true], [])]) ∧
    ¬∀ (components : Components) (owner field reference : String) (s : Schema)
      (names next : Names) (p : Property) (schemas : List Schema),
      s.reference = some reference →
      components.property owner field s names = .ok (p, next) →
      components.Passes reference schemas →
        p.nullable = (s :: schemas).any Schema.isNullable := by
  have hshade : generates (petDocument "Shade") {} (fun p =>
      nullChecks p == [([false], ["colour"])]) = true := by
    decide +kernel
  have hcolour : generates (petDocument "Colour") {} (fun p =>
      nullChecks p == [([true], [])]) = true := by
    decide +kernel
  obtain ⟨d, p, hd, hp, hchecks⟩ := exists_of_generates hshade
  obtain ⟨d', p', hd', hp', hchecks'⟩ := exists_of_generates hcolour
  refine ⟨⟨d, p, hd, hp, eq_of_beq hchecks⟩, ⟨d', p', hd', hp', eq_of_beq hchecks'⟩, fun hall => ?_⟩
  have hlost := hall colours "Pet" "paint" _ (refTo "Paint") {} {} _ _ rfl rfl passes_paint
  cases hlost

end TypedClient.Plan
