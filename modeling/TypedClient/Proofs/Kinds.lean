import Mathlib.Tactic.Common
import TypedClient.Plan.Model

/-!
# Parts of kinds

`Kind.Part part kind` says that `part` stands in a kind: it is the kind itself or stands in the
items of a list. References to models and enumerations are told apart as parts, and `mapModel`
changes the models among the parts and nothing else.
-/

namespace TypedClient.Plan

namespace Kind

/-- The part is the kind itself, or stands in it through any nesting of lists. -/
inductive Part (part : Kind) : Kind → Prop where
  | self : Part part part
  | items {kind : Kind} (h : Part part kind) : Part part (.list kind)

theorem part_list_iff {part kind : Kind} :
    Part part (.list kind) ↔ part = .list kind ∨ Part part kind := by
  constructor
  · intro h
    cases h with
    | self => exact Or.inl rfl
    | items h => exact Or.inr h
  · rintro (rfl | h)
    · exact Part.self
    · exact Part.items h

/-- The one model among the parts is the model that the kind refers to. -/
theorem part_model_iff {name : String} {forward : Bool} {kind : Kind} :
    Part (.model name forward) kind ↔ kind.model? = some name ∧ kind.isForward = forward := by
  induction kind with
  | list items ih =>
      rw [part_list_iff, ih]
      simp [model?, isForward]
  | model name' forward' =>
      constructor
      · intro h
        cases h
        exact ⟨rfl, rfl⟩
      · rintro ⟨hname, rfl⟩
        cases hname
        exact Part.self
  | _ =>
      constructor
      · intro h
        cases h
      · rintro ⟨hname, -⟩
        cases hname

/-- Only a kind that refers to a model refers forward. -/
theorem isForward_of_model?_eq_none {kind : Kind} (h : kind.model? = none) :
    kind.isForward = false := by
  induction kind with
  | list items ih => exact ih h
  | model name forward => cases h
  | _ => rfl

/-- A model among the parts of a changed kind was changed by `f`. -/
theorem part_model_mapModel {f : String → Bool → String × Bool} {name : String} {forward : Bool}
    {kind : Kind} (h : Part (.model name forward) (kind.mapModel f)) :
    ∃ name' forward', Part (.model name' forward') kind ∧ f name' forward' = (name, forward) := by
  induction kind with
  | list items ih =>
      rw [mapModel_list, part_list_iff] at h
      obtain ⟨name', forward', hpart, hf⟩ := ih (h.resolve_left (by simp))
      exact ⟨name', forward', Part.items hpart, hf⟩
  | model name' forward' =>
      cases h
      exact ⟨name', forward', Part.self, rfl⟩
  | _ => cases h

/-- The enumeration that a kind refers to, also from inside lists. -/
def enumeration? : Kind → Option String
  | enumeration name => some name
  | list items => items.enumeration?
  | _ => none

/-- The one enumeration among the parts is the one that the kind refers to. -/
theorem part_enumeration_iff {name : String} {kind : Kind} :
    Part (.enumeration name) kind ↔ kind.enumeration? = some name := by
  induction kind with
  | list items ih =>
      rw [part_list_iff, ih]
      simp [enumeration?]
  | enumeration name' =>
      constructor
      · intro h
        cases h
        rfl
      · intro h
        cases h
        exact Part.self
  | _ =>
      constructor
      · intro h
        cases h
      · intro h
        cases h

/-- Changing the models among the parts leaves the enumeration as it is. -/
theorem enumeration?_mapModel (f : String → Bool → String × Bool) (kind : Kind) :
    (kind.mapModel f).enumeration? = kind.enumeration? := by
  induction kind with
  | list items ih => exact ih
  | _ => rfl

theorem mapModel_mapModel (f g : String → Bool → String × Bool) (kind : Kind) :
    (kind.mapModel f).mapModel g =
      kind.mapModel fun name forward => g (f name forward).1 (f name forward).2 := by
  induction kind with
  | list items ih => rw [mapModel_list, mapModel_list, mapModel_list, ih]
  | _ => rfl

end Kind

end TypedClient.Plan
