import TypedClient.Proofs.Plan.Fields

/-!
# Chains of aliases

An alias component may refer to another one, and so on, until a reference names a model, an
enumeration or an alias for a scalar (`Components.EndsAt`). Such a chain is followed for a property,
for a path parameter and for a body, and each of the three says in its own way how far: what it
finds is found at the end of the chain, or the limit is reached before (`kindFrom_of_endsAt`,
`kindFrom_of_lt_length`, `primitiveFrom_of_endsAt`, `primitiveFrom_of_le_length`,
`bodyShapeFrom_of_endsAt`).
-/

namespace TypedClient.Plan

open OpenApi (Schema)
open Claiming

/-! ## Ends of chains -/

/-- A text, a number or a truth value, with nothing beside it that would make a list or a map of
it. -/
structure IsScalar (s : Schema) : Prop where
  reference_eq : s.reference = none
  items_eq : s.items = none
  additional_eq : s.additional = none
  exists_token : ∃ token ∈ ["string", "integer", "number", "boolean"],
    s.primaryType? = some token

theorem IsScalar.exists_primitive {s : Schema} (h : IsScalar s) :
    ∃ p, plainPrimitive? s = some p := by
  obtain ⟨token, htoken, htype⟩ := h.exists_token
  rw [plainPrimitive?, htype]
  simp only [List.mem_cons, List.not_mem_nil, or_false] at htoken
  rcases htoken with rfl | rfl | rfl | rfl <;> exact ⟨_, rfl⟩

/-- A text that is no enumeration needs no name. -/
theorem exists_textKind_eq {s : Schema} (hprimary : s.primaryType? = some "string")
    (hplain : s.isStringEnum = false) (owner field : String) :
    ∃ kind, textKind owner field s = pure kind := by
  unfold textKind
  split
  · exact ⟨_, rfl⟩
  · next hlength =>
      split
      · exact ⟨_, rfl⟩
      · next hformat =>
          split
          · exact ⟨_, rfl⟩
          · next hvalues =>
              rw [Schema.isStringEnum, hprimary, hformat] at hplain
              simp only [hlength, beq_self_eq_true, Option.isNone_none, Bool.not_false,
                Bool.and_true, Bool.true_and, Bool.not_eq_false', List.isEmpty_iff] at hplain
              exact absurd hplain hvalues

theorem exists_tokenKind_eq {token : String} (htoken : token ∈ ["integer", "number", "boolean"])
    (s : Schema) (owner field : String) : ∃ kind, tokenKind owner field token s = .ok kind := by
  unfold tokenKind
  split
  · exact ⟨_, rfl⟩
  · split
    · exact ⟨_, rfl⟩
    · simp only [List.mem_cons, List.not_mem_nil, or_false] at htoken
      rcases htoken with rfl | rfl | rfl <;> exact ⟨_, rfl⟩

theorem inlineKind_of_token {follow : String → Claiming Kind} {s : Schema} {token : String}
    (hprimary : s.primaryType? = some token) (hstring : token ≠ "string") (harray : token ≠ "array")
    (owner field : String) :
    inlineKind follow owner field s = liftM (tokenKind owner field token s) := by
  obtain ⟨type, htype, hdecl⟩ := exists_type_of_primaryType? hprimary
  rw [inlineKind, htype]
  simp only [hdecl, Option.getD_some]

/-- A scalar that is no enumeration has a kind of its own, whatever references stand for. -/
theorem IsScalar.exists_kind {s : Schema} (h : IsScalar s) (hplain : s.isStringEnum = false)
    (owner field : String) : ∃ kind, ∀ follow, inlineKind follow owner field s = pure kind := by
  obtain ⟨token, htoken, hprimary⟩ := h.exists_token
  obtain ⟨type, htype, hdecl⟩ := exists_type_of_primaryType? hprimary
  rcases List.mem_cons.1 htoken with rfl | hother
  · obtain ⟨kind, hkind⟩ := exists_textKind_eq hprimary hplain owner field
    refine ⟨kind, fun follow => ?_⟩
    rw [inlineKind, htype]
    simp only [hdecl, Option.getD_some]
    exact hkind
  · obtain ⟨kind, hkind⟩ := exists_tokenKind_eq hother s owner field
    refine ⟨kind, fun follow => ?_⟩
    rw [inlineKind_of_token hprimary (by rintro rfl; simp at hother)
      (by rintro rfl; simp at hother), hkind]
    rfl

namespace Target

/-- A chain of references may end in a model, an enumeration or a scalar. -/
def IsEnd : Target → Prop
  | .aliasOf s => IsScalar s
  | _ => True

/-- The target is what the kind of a property says, whatever further references stand for. -/
def Gives (owner field : String) (kind : Kind) : Target → Prop
  | .model name => kind = .model name false
  | .enumeration name => kind = .enumeration name
  | .aliasOf s => ∀ follow, inlineKind follow owner field s = pure kind

/-- The primitive of a parameter that stands for the target. -/
def primitive? : Target → Option Primitive
  | .model _ => none
  | .enumeration _ => some .str
  | .aliasOf s => plainPrimitive? s

/-- The shape of a body that stands for the target. -/
def shape : Target → BodyShape
  | .model name => .typed (.model name)
  | .enumeration _ => .typed (.primitive .str)
  | .aliasOf s => .ofType? ((plainPrimitive? s).map .primitive)

/-- How often the schema of the target itself is looked at for a body. -/
def looks : Target → Nat
  | .aliasOf _ => 1
  | _ => 0

theorem looks_cases (t : Target) :
    (t.looks = 0 ∧ ∀ scalar, t ≠ .aliasOf scalar) ∨
      t.looks = 1 ∧ ∃ scalar, t = .aliasOf scalar := by
  cases t with
  | aliasOf scalar => exact .inr ⟨rfl, scalar, rfl⟩
  | _ => exact .inl ⟨rfl, fun _ => Target.noConfusion⟩

/-- What stands at the end of a chain has a type. -/
theorem IsEnd.exists_shape_eq {t : Target} (h : t.IsEnd) :
    (∃ name, t.shape = .typed (.model name)) ∨ ∃ p, t.shape = .typed (.primitive p) := by
  cases t with
  | model name => exact .inl ⟨name, rfl⟩
  | enumeration name => exact .inr ⟨_, rfl⟩
  | aliasOf s =>
      obtain ⟨p, hp⟩ := IsScalar.exists_primitive h
      refine .inr ⟨p, ?_⟩
      rw [shape, hp]
      rfl

end Target

namespace Components

/-! ## Aliases -/

section Chains

variable (components : Components)

/-- The schema is a reference to an alias component, whose own schema is `named`. -/
def AliasFor (s named : Schema) : Prop :=
  ∃ reference, s.reference = some reference ∧ components.target reference = .ok (.aliasOf named)

/-- The schema is a reference to the object component of a model. -/
def ModelFor (s : Schema) (name : String) : Prop :=
  ∃ reference, s.reference = some reference ∧ components.target reference = .ok (.model name)

/-- The references that start at the schema lead through the aliases, one after another, and end at
the target. -/
inductive EndsAt : (aliases : List Schema) → Schema → Target → Prop where
  | direct {s : Schema} {reference : String} {t : Target}
      (hreference : s.reference = some reference)
      (htarget : components.target reference = .ok t) (hend : t.IsEnd) : EndsAt [] s t
  | next {aliases : List Schema} {s named : Schema} {t : Target}
      (halias : components.AliasFor s named) (h : EndsAt aliases named t) :
      EndsAt (named :: aliases) s t

end Chains

section Alias

variable {components : Components}

theorem AliasFor.target_eq {s named : Schema} {reference : String}
    (h : components.AliasFor s named) (hreference : s.reference = some reference) :
    components.target reference = .ok (.aliasOf named) := by
  obtain ⟨reference', hreference', htarget⟩ := h
  rw [hreference, Option.some.injEq] at hreference'
  rwa [hreference']

theorem ModelFor.target_eq {s : Schema} {name reference : String} (h : components.ModelFor s name)
    (hreference : s.reference = some reference) :
    components.target reference = .ok (.model name) := by
  obtain ⟨reference', hreference', htarget⟩ := h
  rw [hreference, Option.some.injEq] at hreference'
  rwa [hreference']

theorem AliasFor.unique {s named other : Schema} (h : components.AliasFor s named)
    (h' : components.AliasFor s other) : named = other := by
  obtain ⟨reference, hreference, htarget⟩ := h
  rw [h'.target_eq hreference] at htarget
  cases htarget
  rfl

theorem not_modelFor_of_aliasFor {s named : Schema} (h : components.AliasFor s named)
    (name : String) : ¬components.ModelFor s name := by
  intro hmodel
  obtain ⟨reference, hreference, htarget⟩ := h
  rw [hmodel.target_eq hreference] at htarget
  cases htarget

theorem primitiveFrom_of_aliasFor {s named : Schema} (h : components.AliasFor s named)
    (follows : Nat) :
    components.primitiveFrom (follows + 1) s = components.primitiveFrom follows named := by
  obtain ⟨reference, hreference, htarget⟩ := h
  rw [primitiveFrom]
  simp only [hreference, htarget]

theorem bodyShapeFrom_of_aliasFor {s named : Schema} (hitems : s.items = none)
    (h : components.AliasFor s named) (looks : Nat) :
    components.bodyShapeFrom (looks + 1) s = components.bodyShapeFrom looks named := by
  obtain ⟨reference, hreference, htarget⟩ := h
  rw [bodyShapeFrom]
  simp only [hitems, hreference, htarget]

/-- Behind an alias that is itself a reference, there is one look less. -/
theorem referenceKind_of_aliasFor {looks aliases : Nat} {s named : Schema}
    {reference next : String} (h : components.AliasFor s named)
    (hreference : s.reference = some reference) (hnext : named.reference = some next)
    (haliases : aliases ≤ maxAliases) (owner field : String) :
    Plan.referenceKind components owner field (looks + 1) aliases reference =
      Plan.referenceKind components owner field looks (aliases + 1) next := by
  rw [Plan.referenceKind, if_neg (Nat.not_lt.2 haliases), h.target_eq hreference, lift_ok_bind]
  simp only [hnext]

end Alias

/-! ## Ends -/

variable {components : Components} {aliases : List Schema} {s : Schema} {t : Target}

theorem EndsAt.exists_reference (h : components.EndsAt aliases s t) :
    ∃ reference, s.reference = some reference := by
  cases h with
  | direct hreference => exact ⟨_, hreference⟩
  | next halias _ =>
      obtain ⟨reference, hreference, -⟩ := halias
      exact ⟨reference, hreference⟩

theorem EndsAt.isEnd (h : components.EndsAt aliases s t) : t.IsEnd := by
  induction h with
  | direct _ _ hend => exact hend
  | next _ _ ih => exact ih

/-! ## Properties -/

section Properties

variable {reference : String} {looks before : Nat}

/-- The end of a chain has a kind, whatever references stand for. -/
theorem exists_gives (htarget : components.target reference = .ok t) (hend : t.IsEnd)
    (owner field : String) : ∃ kind, t.Gives owner field kind := by
  cases t with
  | model name => exact ⟨_, rfl⟩
  | enumeration name => exact ⟨_, rfl⟩
  | aliasOf s =>
      obtain ⟨component, named, -, hkind⟩ := target_eq_ok htarget
      obtain rfl := eq_of_ofComponent_aliasOf hkind.symm
      refine IsScalar.exists_kind hend ?_ owner field
      by_contra henum
      rw [Target.ofComponent, if_pos (Bool.not_eq_false _ ▸ henum)] at hkind
      cases hkind

theorem kindFrom_of_endsAt (h : components.EndsAt aliases s t)
    (hreference : s.reference = some reference) (hlooks : aliases.length < looks)
    (hbefore : before + aliases.length ≤ maxAliases) (owner field : String) :
    ∃ kind, t.Gives owner field kind ∧
      Plan.referenceKind components owner field looks before reference = pure kind := by
  induction h generalizing looks before reference with
  | @direct s named t hnamed htarget hend =>
      rw [hreference, Option.some.injEq] at hnamed
      subst hnamed
      obtain ⟨looks, rfl⟩ := Nat.exists_eq_succ_of_ne_zero (Nat.ne_zero_of_lt hlooks)
      obtain ⟨kind, hgives⟩ := exists_gives htarget hend owner field
      refine ⟨kind, hgives, ?_⟩
      rw [List.length_nil, Nat.add_zero] at hbefore
      rw [Plan.referenceKind, if_neg (Nat.not_lt.2 hbefore), htarget, lift_ok_bind]
      cases t with
      | model name => rw [show kind = .model name false from hgives]
      | enumeration name => rw [show kind = .enumeration name from hgives]
      | aliasOf scalar =>
          simp only [IsScalar.reference_eq hend]
          exact hgives _
  | next halias h ih =>
      obtain ⟨next, hnext⟩ := h.exists_reference
      obtain ⟨looks, rfl⟩ := Nat.exists_eq_succ_of_ne_zero (Nat.ne_zero_of_lt hlooks)
      rw [List.length_cons] at hlooks hbefore
      rw [referenceKind_of_aliasFor halias hreference hnext (by omega)]
      exact ih hnext (by omega) (by omega)

/-- A chain with more aliases than are followed is too deep for a property. -/
theorem kindFrom_of_lt_length (h : components.EndsAt aliases s t)
    (hreference : s.reference = some reference) (hbefore : before ≤ maxAliases + 1)
    (hlooks : maxAliases + 1 < before + looks) (hdeep : maxAliases < before + aliases.length)
    (owner field : String) :
    ∃ last, Plan.referenceKind components owner field looks before reference =
      throw (.unresolved (.deepAlias last)) := by
  induction h generalizing looks before reference with
  | direct =>
      obtain ⟨looks, rfl⟩ := Nat.exists_eq_succ_of_ne_zero (n := looks) (by omega)
      rw [List.length_nil, Nat.add_zero] at hdeep
      exact ⟨reference, by rw [Plan.referenceKind, if_pos hdeep]⟩
  | next halias h ih =>
      obtain ⟨next, hnext⟩ := h.exists_reference
      obtain ⟨looks, rfl⟩ := Nat.exists_eq_succ_of_ne_zero (n := looks) (by omega)
      by_cases hmore : maxAliases < before
      · exact ⟨reference, by rw [Plan.referenceKind, if_pos hmore]⟩
      · rw [List.length_cons] at hdeep
        rw [referenceKind_of_aliasFor halias hreference hnext (Nat.not_lt.1 hmore)]
        exact ih hnext (by omega) (by omega) (by omega)

theorem referenceKind_of_endsAt (h : components.EndsAt aliases s t)
    (hreference : s.reference = some reference) (hwithin : aliases.length ≤ maxAliases)
    (owner field : String) : ∃ kind, t.Gives owner field kind ∧
      components.referenceKind owner field reference = pure kind :=
  kindFrom_of_endsAt h hreference (by unfold Components.looks; omega) (by omega) owner field

theorem referenceKind_of_lt_length (h : components.EndsAt aliases s t)
    (hreference : s.reference = some reference) (hdeep : maxAliases < aliases.length)
    (owner field : String) : ∃ last, components.referenceKind owner field reference =
      throw (.unresolved (.deepAlias last)) :=
  kindFrom_of_lt_length h hreference (Nat.zero_le _) (by unfold Components.looks; omega)
    (by omega) owner field

end Properties

/-! ## Parameters -/

theorem primitiveFrom_of_endsAt {follows : Nat} (h : components.EndsAt aliases s t)
    (hfollows : aliases.length < follows) :
    components.primitiveFrom follows s = .ok t.primitive? := by
  induction h generalizing follows with
  | @direct s reference t hreference htarget hend =>
      obtain ⟨follows, rfl⟩ := Nat.exists_eq_succ_of_ne_zero (Nat.ne_zero_of_lt hfollows)
      rw [primitiveFrom]
      simp only [hreference, htarget]
      cases t with
      | model name => rfl
      | enumeration name => rfl
      | aliasOf named =>
          simp only
          rw [primitiveFrom, IsScalar.reference_eq hend]
          rfl
  | next halias _ ih =>
      obtain ⟨follows, rfl⟩ := Nat.exists_eq_succ_of_ne_zero (Nat.ne_zero_of_lt hfollows)
      rw [primitiveFrom_of_aliasFor halias]
      exact ih (Nat.lt_of_succ_lt_succ hfollows)

/-- A chain with more aliases than are followed leaves its last reference open for a parameter. -/
theorem primitiveFrom_of_le_length {follows : Nat} (h : components.EndsAt aliases s t)
    (hfollows : follows ≤ aliases.length) :
    ∃ last, components.primitiveFrom follows s = .error (.unresolved (.dangling last)) := by
  induction h generalizing follows with
  | direct hreference =>
      obtain rfl := Nat.le_zero.1 hfollows
      exact ⟨_, by rw [primitiveFrom, hreference]⟩
  | next halias h ih =>
      cases follows with
      | zero =>
          obtain ⟨reference, hreference, -⟩ := halias
          exact ⟨reference, by rw [primitiveFrom, hreference]⟩
      | succ follows =>
          rw [primitiveFrom_of_aliasFor halias]
          exact ih (Nat.le_of_succ_le_succ hfollows)

theorem primitive?_of_endsAt (h : components.EndsAt aliases s t)
    (hwithin : aliases.length ≤ maxAliases) : components.primitive? s = .ok t.primitive? :=
  primitiveFrom_of_endsAt h (Nat.lt_succ_of_le hwithin)

theorem primitive?_of_lt_length (h : components.EndsAt aliases s t)
    (hdeep : maxAliases < aliases.length) :
    ∃ last, components.primitive? s = .error (.unresolved (.dangling last)) :=
  primitiveFrom_of_le_length h hdeep

/-! ## Bodies -/

theorem plainShape_of_isScalar (h : IsScalar s) :
    components.plainShape s = .ok (Target.aliasOf s).shape := by
  obtain ⟨token, -, hprimary⟩ := h.exists_token
  obtain ⟨type, htype, hdecl⟩ := exists_type_of_primaryType? hprimary
  have hself : components.primitive? s = .ok (plainPrimitive? s) := by
    rw [primitive?, primitiveFrom, h.reference_eq]
  rw [plainShape, h.additional_eq, htype, hself]
  change (if type.primary?.isNone = true then _ else _) = _
  rw [hdecl]
  rfl

/-- The first items among the schemas that are looked at decide the shape of a body; a chain without
any is followed as far as there are looks, one of which a scalar at its end takes. -/
theorem bodyShapeFrom_of_endsAt (h : components.EndsAt aliases s t) (looks : Nat) :
    components.bodyShapeFrom looks s =
      match ((s :: aliases).take looks).findSome? Schema.items with
      | some items => components.listShape items
      | none =>
        if aliases.length + t.looks < looks then .ok t.shape
        else .error (.unresolved .deepBody) := by
  induction h generalizing looks with
  | @direct s reference t hreference htarget hend =>
      cases looks with
      | zero => rfl
      | succ looks =>
          rw [bodyShapeFrom, List.take_succ_cons, List.take_nil, List.findSome?_cons]
          cases hitems : s.items with
          | some items => rfl
          | none =>
              simp only [hreference, htarget, List.findSome?_nil, List.length_nil, Nat.zero_add]
              cases t with
              | model name => rfl
              | enumeration name => rfl
              | aliasOf named =>
                  cases looks with
                  | zero => rfl
                  | succ looks =>
                      rw [if_pos (by simp only [Target.looks]; omega)]
                      simp only
                      rw [bodyShapeFrom]
                      simp only [IsScalar.items_eq hend, IsScalar.reference_eq hend]
                      exact plainShape_of_isScalar hend
  | next halias h ih =>
      cases looks with
      | zero => rfl
      | succ looks =>
          rw [List.take_succ_cons, List.findSome?_cons]
          cases hitems : Schema.items _ with
          | some items =>
              rw [bodyShapeFrom]
              simp only [hitems]
          | none =>
              rw [bodyShapeFrom_of_aliasFor hitems halias, ih]
              simp only [List.length_cons, Nat.add_right_comm _ 1, Nat.add_lt_add_iff_right]

end Components
end TypedClient.Plan
