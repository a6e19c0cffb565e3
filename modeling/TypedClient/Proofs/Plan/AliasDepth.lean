import TypedClient.Proofs.Plan.Aliases

/-!
# How far aliases are followed

A reference may stand for the type of a property, of a path parameter or of a body. Along a chain of
aliases, properties and parameters are followed equally far. A body is different in two ways: a
scalar at the end of the chain takes one look more than a model or an enumeration, which are told by
their names, and items that stand beside a reference come before it. So the three part ways exactly
where a scalar stands behind as many aliases as are followed, and where items are met on the way
(`followers_spec`).
-/

namespace TypedClient.Plan

open OpenApi (Document Schema)
open Claiming

namespace Components

variable {components : Components} {aliases : List Schema} {s : Schema} {t : Target}

/-- The result is that a reference is unresolved. -/
def IsUnresolved {α : Type} (x : Except GenerationError α) : Prop :=
  ∃ problem, x = .error (.unresolved problem)

section Followers

variable (components : Components) (s : Schema) (reference : String)

/-- The reference of the schema is followed to its end, for a property, a parameter and a body. -/
structure Follows (t : Target) : Prop where
  property : ∀ owner field, ∃ kind, t.Gives owner field kind ∧
    components.referenceKind owner field reference = pure kind
  parameter : components.primitive? s = .ok t.primitive?
  body : components.bodyShape s = .ok t.shape

/-- The reference of the schema is unresolved, for a property, a parameter and a body. -/
structure Fails : Prop where
  property : ∀ owner field names,
    IsUnresolved (components.referenceKind owner field reference names)
  parameter : IsUnresolved (components.primitive? s)
  body : IsUnresolved (components.bodyShape s)

end Followers

/-- A list has the shape of a list, or none. -/
theorem of_listShape_eq_ok {items : Schema} {shape : BodyShape}
    (h : components.listShape items = .ok shape) :
    (∃ name, shape = .typed (.modelList name)) ∨ (∃ p, shape = .typed (.primitiveList p)) ∨
      shape = .unmatched := by
  by_cases hmodel : ∃ name, components.ModelFor items name
  · obtain ⟨name, hmodel⟩ := hmodel
    rw [listShape_of_modelFor hmodel] at h
    exact .inl ⟨name, (Except.ok.inj h).symm⟩
  · rw [listShape_of_not_modelFor (not_exists.1 hmodel)] at h
    cases hprimitive : components.primitive? items with
    | error e =>
        rw [hprimitive] at h
        cases h
    | ok found =>
        rw [hprimitive] at h
        cases found with
        | none => exact .inr (.inr (Except.ok.inj h).symm)
        | some p => exact .inr (.inl ⟨p, (Except.ok.inj h).symm⟩)

theorem listShape_ne_shape (components : Components) (items : Schema) (hend : t.IsEnd) :
    components.listShape items ≠ .ok t.shape := by
  intro h
  rcases hend.exists_shape_eq with ⟨name, hshape⟩ | ⟨p, hshape⟩ <;>
  · rw [hshape] at h
    rcases of_listShape_eq_ok h with ⟨_, heq⟩ | ⟨_, heq⟩ | heq <;> cases heq

/-- A property and a parameter follow as many aliases, so only the body may part with them. -/
theorem follows_or_fails_iff (h : components.EndsAt aliases s t)
    (hreference : s.reference = some reference) :
    components.Follows s reference t ∨ components.Fails s reference ↔
      if aliases.length ≤ maxAliases then components.bodyShape s = .ok t.shape
      else IsUnresolved (components.bodyShape s) := by
  by_cases hwithin : aliases.length ≤ maxAliases
  · rw [if_pos hwithin]
    constructor
    · rintro (hfollows | hfails)
      · exact hfollows.body
      · obtain ⟨problem, hparameter⟩ := hfails.parameter
        rw [primitive?_of_endsAt h hwithin] at hparameter
        cases hparameter
    · exact fun hbody => .inl ⟨referenceKind_of_endsAt h hreference hwithin,
        primitive?_of_endsAt h hwithin, hbody⟩
  · rw [if_neg hwithin]
    obtain ⟨last, hparameter⟩ := primitive?_of_lt_length h (Nat.not_le.1 hwithin)
    constructor
    · rintro (hfollows | hfails)
      · rw [hfollows.parameter] at hparameter
        cases hparameter
      · exact hfails.body
    · refine fun hbody => .inr ⟨fun owner field names => ?_, ⟨_, hparameter⟩, hbody⟩
      obtain ⟨last, hproperty⟩ :=
        referenceKind_of_lt_length h hreference (Nat.not_le.1 hwithin) owner field
      exact ⟨_, congrFun hproperty names⟩

/-- The references of a property and of a parameter are followed to the end of a chain if there are
no more aliases than the limit. For a body there must be one less if the end is a scalar, and the
first items on the way come before everything else. So either all three follow the chain to its end
or all leave the reference unresolved, except where a scalar stands behind exactly as many aliases
as the limit says, and where items decide about the body. -/
theorem followers_spec (components : Components) (aliases : List Schema) (s : Schema) (t : Target)
    (reference : String) (hreference : s.reference = some reference)
    (h : components.EndsAt aliases s t) :
    (aliases.length ≤ maxAliases →
      (∀ owner field, ∃ kind, t.Gives owner field kind ∧
        components.referenceKind owner field reference = pure kind) ∧
      components.primitive? s = .ok t.primitive?) ∧
    (maxAliases < aliases.length →
      (∀ owner field, ∃ last, components.referenceKind owner field reference =
        throw (.unresolved (.deepAlias last))) ∧
      ∃ last, components.primitive? s = .error (.unresolved (.dangling last))) ∧
    (components.bodyShape s =
      match ((s :: aliases).take (maxAliases + 1)).findSome? Schema.items with
      | some items => components.listShape items
      | none =>
        if aliases.length + t.looks ≤ maxAliases then .ok t.shape
        else .error (.unresolved .deepBody)) ∧
    (components.Follows s reference t ∨ components.Fails s reference ↔
      match ((s :: aliases).take (maxAliases + 1)).findSome? Schema.items with
      | some items => maxAliases < aliases.length ∧ IsUnresolved (components.listShape items)
      | none => ¬(aliases.length = maxAliases ∧ ∃ scalar, t = .aliasOf scalar)) := by
  have hbody : components.bodyShape s = _ := bodyShapeFrom_of_endsAt h (maxAliases + 1)
  simp only [Nat.lt_succ_iff] at hbody
  refine ⟨fun hwithin => ⟨referenceKind_of_endsAt h hreference hwithin,
      primitive?_of_endsAt h hwithin⟩,
    fun hdeep => ⟨referenceKind_of_lt_length h hreference hdeep, primitive?_of_lt_length h hdeep⟩,
    hbody, ?_⟩
  rw [follows_or_fails_iff h hreference, hbody]
  cases hfirst : ((s :: aliases).take (maxAliases + 1)).findSome? Schema.items with
  | some items =>
      simp only
      split
      · next hwithin =>
          exact iff_of_false (listShape_ne_shape components items h.isEnd)
            fun hdeep => Nat.not_lt.2 hwithin hdeep.1
      · next hdeep => rw [and_iff_right (Nat.not_le.1 hdeep)]
  | none =>
      simp only
      by_cases hend : aliases.length + t.looks ≤ maxAliases
      · rw [if_pos hend, if_pos (by omega)]
        refine iff_of_true rfl ?_
        rintro ⟨hlength, scalar, rfl⟩
        rw [hlength] at hend
        exact Nat.not_succ_le_self maxAliases hend
      · rw [if_neg hend]
        split
        · next hwithin =>
            refine iff_of_false (by rintro ⟨⟩) (not_not_intro ?_)
            rcases t.looks_cases with ⟨hlooks, -⟩ | ⟨hlooks, hscalar⟩
            · omega
            · exact ⟨by omega, hscalar⟩
        · exact iff_of_true ⟨_, rfl⟩ fun hboundary => by omega

/-! ## A ladder of aliases -/

/-- A reference to one of the rungs. -/
def rung (name : String) : Schema where
  reference := some ("#/components/schemas/" ++ name)

/-- A text. -/
def text : Schema where
  type := some (.one "string")

/-- Seventeen aliases in a row, and a text behind them. -/
def rungs : Components := [
  ("0", rung "1"), ("1", rung "2"), ("2", rung "3"), ("3", rung "4"), ("4", rung "5"),
  ("5", rung "6"), ("6", rung "7"), ("7", rung "8"), ("8", rung "9"), ("9", rung "10"),
  ("10", rung "11"), ("11", rung "12"), ("12", rung "13"), ("13", rung "14"), ("14", rung "15"),
  ("15", rung "16"), ("16", rung "17"), ("17", text)]

/-- The schemas of the aliases `2` to `16`. -/
def upperRungs : List Schema := [
  rung "3", rung "4", rung "5", rung "6", rung "7", rung "8", rung "9", rung "10", rung "11",
  rung "12", rung "13", rung "14", rung "15", rung "16", rung "17"]

theorem aliasFor_rung (name : String) {named : Schema}
    (h : rungs.target ("#/components/schemas/" ++ name) = .ok (.aliasOf named)) :
    rungs.AliasFor (rung name) named := ⟨_, rfl, h⟩

theorem endsAt_upperRungs : rungs.EndsAt upperRungs (rung "2") (.aliasOf text) :=
  .next (aliasFor_rung _ rfl) <| .next (aliasFor_rung _ rfl) <| .next (aliasFor_rung _ rfl) <|
  .next (aliasFor_rung _ rfl) <| .next (aliasFor_rung _ rfl) <| .next (aliasFor_rung _ rfl) <|
  .next (aliasFor_rung _ rfl) <| .next (aliasFor_rung _ rfl) <| .next (aliasFor_rung _ rfl) <|
  .next (aliasFor_rung _ rfl) <| .next (aliasFor_rung _ rfl) <| .next (aliasFor_rung _ rfl) <|
  .next (aliasFor_rung _ rfl) <| .next (aliasFor_rung _ rfl) <| .next (aliasFor_rung _ rfl) <|
  .direct rfl rfl ⟨rfl, rfl, rfl, "string", by decide, rfl⟩

theorem endsAt_sixteen : rungs.EndsAt (rung "2" :: upperRungs) (rung "1") (.aliasOf text) :=
  .next (aliasFor_rung _ rfl) endsAt_upperRungs

theorem followers_spec_rungs :
    rungs.EndsAt upperRungs (rung "2") (.aliasOf text) ∧
      rungs.Follows (rung "2") "#/components/schemas/2" (.aliasOf text) ∧
    rungs.EndsAt (rung "1" :: rung "2" :: upperRungs) (rung "0") (.aliasOf text) ∧
      rungs.Fails (rung "0") "#/components/schemas/0" := by
  have hdeep : rungs.EndsAt (rung "1" :: rung "2" :: upperRungs) (rung "0") (.aliasOf text) :=
    .next (aliasFor_rung _ rfl) endsAt_sixteen
  refine ⟨endsAt_upperRungs, ?_, hdeep, ?_⟩
  · obtain ⟨-, -, -, hall⟩ := followers_spec rungs _ _ _ _ rfl endsAt_upperRungs
    rcases hall.2 (by rintro ⟨⟨⟩, -⟩) with hfollows | hfails
    · exact hfollows
    · obtain ⟨_, ⟨⟩⟩ := hfails.parameter
  · obtain ⟨-, -, -, hall⟩ := followers_spec rungs _ _ _ _ rfl hdeep
    rcases hall.2 (by rintro ⟨⟨⟩, -⟩) with hfollows | hfails
    · cases hfollows.parameter
    · exact hfails

/-- A document with these components, an object with a property, and an operation with a path
parameter and an answer; all three refer to rungs. -/
def rungsDocument (property parameter response : String) : Json :=
  let reference (name : String) : Json :=
    .object [("$ref", .string ("#/components/schemas/" ++ name))]
  .object [
    ("openapi", .string "3.0.0"),
    ("paths", .object [("/a/\x7bid\x7d", .object [("get", .object [
      ("operationId", .string "x"),
      ("parameters", .array [.object [
        ("name", .string "id"), ("in", .string "path"), ("required", .bool true),
        ("schema", reference parameter)]]),
      ("responses", .object [("200", .object [
        ("description", .string "d"),
        ("content", .object [("application/json", .object [
          ("schema", reference response)])])])])])])]),
    ("components", .object [("schemas", .object (
      ("Pet", .object [("type", .string "object"),
        ("properties", .object [("label", reference property)])]) ::
      rungs.map fun (name, s) => (name,
        match s.reference with
        | some reference => .object [("$ref", .string reference)]
        | none => .object [("type", .string "string")])))])]

theorem followers_sixteenAliases :
    rungs.EndsAt (rung "2" :: upperRungs) (rung "1") (.aliasOf text) ∧
    (∃ d p, Document.ofJson (rungsDocument "1" "1" "2") = .ok d ∧ build d {} = .ok p ∧
      (p.calls.map fun c => (c.pathParameters.map (·.type), c.response.bind TypeRef.primitive?)) =
        [([.str], some .str)]) ∧
    (∃ d, Document.ofJson (rungsDocument "1" "1" "1") = .ok d ∧
      build d {} = .error (.unresolved .deepBody)) ∧
    ¬∀ (components : Components) (aliases : List Schema) (s : Schema) (t : Target)
      (reference : String), s.reference = some reference → components.EndsAt aliases s t →
      (∀ a ∈ s :: aliases, a.items = none) →
      components.Follows s reference t ∨ components.Fails s reference := by
  have hitems : ∀ a ∈ rung "1" :: rung "2" :: upperRungs, a.items = none := by
    simp [upperRungs, rung]
  have hgenerates : generates (rungsDocument "1" "1" "2") {} (fun p =>
      (p.calls.map fun c => (c.pathParameters.map (·.type), c.response.bind TypeRef.primitive?)) ==
        [([.str], some .str)]) = true := by decide +kernel
  have hrefuses : refuses (rungsDocument "1" "1" "1") {} (fun e =>
      match e with
      | .unresolved .deepBody => true
      | _ => false) = true := by decide +kernel
  obtain ⟨d, p, hd, hp, htypes⟩ := exists_of_generates hgenerates
  obtain ⟨d', e, hd', he, hdeep⟩ := exists_of_refuses hrefuses
  refine ⟨endsAt_sixteen, ⟨d, p, hd, hp, eq_of_beq htypes⟩, ⟨d', hd', ?_⟩, fun hall => ?_⟩
  · split at hdeep
    · exact he
    · cases hdeep
  · rcases hall _ _ _ _ _ rfl endsAt_sixteen hitems with hfollows | hfails
    · cases hfollows.body
    · obtain ⟨_, ⟨⟩⟩ := hfails.parameter

end Components
end TypedClient.Plan
