import TypedClient.Proofs.Plan.Components
import TypedClient.Plan.Endpoint

/-!
# Limits of bodies and parameters

The primitive of a schema and the shape of a body are looked for behind a limited number of
references. What is found within the limit is found with any larger one as well; otherwise there is
a reference that names no component, or too many aliases stand in a row (`primitiveFrom_ends`,
`bodyShapeFrom_ends`).
-/

namespace TypedClient.Plan

open OpenApi (Schema)

/-- There is a result, unless a reference names no component. -/
def Resolves {α : Type} (x : Except GenerationError α) : Prop :=
  (∃ a, x = .ok a) ∨ ∃ reference, x = .error (.unresolved (.dangling reference))

theorem resolves_pure {α : Type} (a : α) : Resolves (pure a) := .inl ⟨a, rfl⟩

theorem Resolves.bind {α β : Type} {x : Except GenerationError α} {f : α → Except GenerationError β}
    (h : Resolves x) (hf : ∀ a, Resolves (f a)) : Resolves (x >>= f) := by
  rcases h with ⟨a, rfl⟩ | ⟨reference, rfl⟩
  · exact hf a
  · exact .inr ⟨reference, rfl⟩

section Limits

variable {α : Type} {f g : Nat → Except GenerationError α} {limit : Nat}

/-- What is the same for all limits settles with the first. -/
theorem Resolves.settles {x : Except GenerationError α} (h : Resolves x)
    (hf : ∀ more, f (more + 1) = x) (limit : Nat) :
    (∃ a, ∀ more, limit < more → f more = .ok a) ∨
    ∃ reference, f (limit + 1) = .error (.unresolved (.dangling reference)) := by
  rcases h with ⟨a, rfl⟩ | ⟨reference, rfl⟩
  · refine .inl ⟨a, fun more hmore => ?_⟩
    obtain ⟨k, rfl⟩ := Nat.exists_eq_add_of_lt hmore
    exact hf _
  · exact .inr ⟨reference, hf limit⟩

/-- What needs one step more settles one step later. -/
theorem settles_succ {a : α} (h : ∀ more, limit ≤ more → g more = .ok a)
    (hf : ∀ more, f (more + 1) = g more) : ∀ more, limit < more → f more = .ok a := by
  intro more hmore
  obtain ⟨k, rfl⟩ := Nat.exists_eq_add_of_lt hmore
  rw [hf]
  exact h _ (Nat.le_add_right _ _)

end Limits

namespace Components

variable {components : Components}

/-- The primitive of a schema is found within the limit, or a reference is unresolved. -/
theorem primitiveFrom_ends (components : Components) (follows : Nat) (s : Schema) :
    (∃ p, ∀ more, follows ≤ more → components.primitiveFrom more s = .ok p) ∨
    ∃ reference,
      components.primitiveFrom follows s = .error (.unresolved (.dangling reference)) := by
  induction follows generalizing s with
  | zero =>
      cases hreference : s.reference with
      | none =>
          refine .inl ⟨plainPrimitive? s, fun more _ => ?_⟩
          rw [primitiveFrom, hreference]
      | some reference =>
          refine .inr ⟨reference, ?_⟩
          rw [primitiveFrom, hreference]
  | succ follows ih =>
      cases hreference : s.reference with
      | none =>
          refine (resolves_pure (plainPrimitive? s)).settles (fun more => ?_) follows
          rw [primitiveFrom, hreference]
          rfl
      | some reference =>
          cases htarget : components.target reference with
          | error e =>
              refine Resolves.settles (x := .error e) (.inr ⟨reference, ?_⟩) (fun more => ?_)
                follows
              · rw [target_eq_error htarget]
              · rw [primitiveFrom]
                simp only [hreference, htarget]
          | ok t =>
              cases t with
              | aliasOf named =>
                  have hnext : ∀ more, components.primitiveFrom (more + 1) s =
                      components.primitiveFrom more named := by
                    intro more
                    rw [primitiveFrom]
                    simp only [hreference, htarget]
                  rcases ih named with ⟨p, hp⟩ | ⟨last, hlast⟩
                  · exact .inl ⟨p, settles_succ hp hnext⟩
                  · exact .inr ⟨last, (hnext follows).trans hlast⟩
              | enumeration name =>
                  refine (resolves_pure (some Primitive.str)).settles (fun more => ?_) follows
                  rw [primitiveFrom]
                  simp only [hreference, htarget]
                  rfl
              | model name =>
                  refine (resolves_pure none).settles (fun more => ?_) follows
                  rw [primitiveFrom]
                  simp only [hreference, htarget]
                  rfl

theorem resolves_primitive? (components : Components) (s : Schema) :
    Resolves (components.primitive? s) := by
  rcases primitiveFrom_ends components (maxAliases + 1) s with ⟨p, hp⟩ | hdangling
  · exact .inl ⟨p, hp _ (Nat.le_refl _)⟩
  · exact .inr hdangling

theorem resolves_target (components : Components) (reference : String) :
    Resolves (components.target reference) := by
  cases htarget : components.target reference with
  | ok t => exact .inl ⟨t, rfl⟩
  | error e => exact .inr ⟨reference, by rw [target_eq_error htarget]⟩

theorem resolves_listShape (components : Components) (items : Schema) :
    Resolves (components.listShape items) := by
  unfold listShape
  extract_lets rest
  have hrest : ∀ named, Resolves (rest named) := by
    intro named
    simp only [rest]
    split
    · exact resolves_pure _
    · exact (components.resolves_primitive? items).bind fun p => resolves_pure _
  split
  · exact (resolves_pure none).bind hrest
  · next reference _ =>
      rw [map_eq_pure_bind]
      exact ((components.resolves_target reference).bind fun t => resolves_pure (some t)).bind hrest

theorem resolves_plainShape (components : Components) (s : Schema) :
    Resolves (components.plainShape s) := by
  unfold plainShape
  extract_lets rest
  have hrest : ∀ values, Resolves (rest values) := by
    intro values
    simp only [rest]
    split
    · exact resolves_pure _
    · exact resolves_pure _
    · split
      · exact resolves_pure _
      · exact (components.resolves_primitive? s).bind fun p => resolves_pure _
  split
  · exact (components.resolves_primitive? _).bind hrest
  · exact (resolves_pure none).bind hrest

/-- The shape of a body is found within the limit, unless a reference is unresolved or too many
aliases stand in a row. -/
theorem bodyShapeFrom_ends (components : Components) (looks : Nat) (s : Schema) :
    (∃ shape, ∀ more, looks ≤ more → components.bodyShapeFrom more s = .ok shape) ∨
    (∃ reference, components.bodyShapeFrom looks s = .error (.unresolved (.dangling reference))) ∨
    components.bodyShapeFrom looks s = .error (.unresolved .deepBody) := by
  induction looks generalizing s with
  | zero => exact .inr (.inr rfl)
  | succ looks ih =>
      -- Only behind an alias the looks that are left count.
      by_cases hnext : ∃ named, ∀ more, components.bodyShapeFrom (more + 1) s =
          components.bodyShapeFrom more named
      · obtain ⟨named, hnext⟩ := hnext
        rcases ih named with ⟨shape, hshape⟩ | herror
        · exact .inl ⟨shape, settles_succ hshape hnext⟩
        · rw [hnext]
          exact .inr herror
      · suffices h : ∃ x, Resolves x ∧ ∀ more, components.bodyShapeFrom (more + 1) s = x by
          obtain ⟨x, hx, hf⟩ := h
          exact (hx.settles hf looks).imp_right .inl
        cases hitems : s.items with
        | some items =>
            refine ⟨_, components.resolves_listShape items, fun more => ?_⟩
            rw [bodyShapeFrom]
            simp only [hitems]
        | none =>
            cases hreference : s.reference with
            | none =>
                refine ⟨_, components.resolves_plainShape s, fun more => ?_⟩
                rw [bodyShapeFrom]
                simp only [hitems, hreference]
            | some reference =>
                cases htarget : components.target reference with
                | error e =>
                    refine ⟨.error e, .inr ⟨reference, ?_⟩, fun more => ?_⟩
                    · rw [target_eq_error htarget]
                    · rw [bodyShapeFrom]
                      simp only [hitems, hreference, htarget]
                | ok t =>
                    cases t with
                    | model name =>
                        refine ⟨_, resolves_pure (.typed (.model name)), fun more => ?_⟩
                        rw [bodyShapeFrom]
                        simp only [hitems, hreference, htarget]
                        rfl
                    | enumeration name =>
                        refine ⟨_, resolves_pure (.typed (.primitive .str)), fun more => ?_⟩
                        rw [bodyShapeFrom]
                        simp only [hitems, hreference, htarget]
                        rfl
                    | aliasOf named =>
                        refine absurd ⟨named, fun more => ?_⟩ hnext
                        rw [bodyShapeFrom]
                        simp only [hitems, hreference, htarget]

end Components

end TypedClient.Plan
