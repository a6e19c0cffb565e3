import Mathlib.Logic.Relation
import TypedClient.Proofs.Plan.Fields

/-!
# Walks along references

The kind of a property is found by following references through aliases, and through the items of
lists, where the count of aliases in a row starts again. Each look at a component either decides the
kind or passes on to one other reference, whose kind is taken over within lists
(`referenceKind_cases`, `referenceKind_of_defers`). So the walk is a path in the relation
`Components.DefersTo`, and looks that are left over at its end change nothing
(`referenceKind_of_le`).
-/

namespace TypedClient.Plan

open OpenApi (Schema)
open Claiming

/-! ## Where the kind of a schema is found -/

/-- The schema is a list whose items, or the items of a list among them, are the reference. -/
inductive Lists : Schema → String → Prop where
  | items {s items : Schema} {reference : String} (htype : s.primaryType? = some "array")
      (hitems : s.items = some items) (hreference : items.reference = some reference) :
      Lists s reference
  | nested {s items : Schema} {reference : String} (htype : s.primaryType? = some "array")
      (hitems : s.items = some items) (hreference : items.reference = none)
      (h : Lists items reference) : Lists s reference

/-- The kind of the schema depends on that of the reference: the schema is the reference, or it is a
list of such. -/
def Defers (s : Schema) (reference : String) : Prop :=
  s.reference = some reference ∨ s.reference = none ∧ Lists s reference

theorem Lists.primaryType?_eq {s : Schema} {reference : String} (h : Lists s reference) :
    s.primaryType? = some "array" := by
  cases h with
  | items htype => exact htype
  | nested htype => exact htype

theorem Lists.unique {s : Schema} {reference other : String} (h : Lists s reference)
    (h' : Lists s other) : reference = other := by
  induction h with
  | items _ hitems hreference =>
      cases h' with
      | items _ hitems' hreference' =>
          rw [hitems, Option.some.injEq] at hitems'
          rw [← hitems', hreference, Option.some.injEq] at hreference'
          exact hreference'
      | nested _ hitems' hreference' =>
          rw [hitems, Option.some.injEq] at hitems'
          rw [← hitems', hreference] at hreference'
          cases hreference'
  | nested _ hitems hreference _ ih =>
      cases h' with
      | items _ hitems' hreference' =>
          rw [hitems, Option.some.injEq] at hitems'
          rw [← hitems', hreference] at hreference'
          cases hreference'
      | nested _ hitems' _ h' =>
          rw [hitems, Option.some.injEq] at hitems'
          subst hitems'
          exact ih h'

theorem Defers.unique {s : Schema} {reference other : String} (h : Defers s reference)
    (h' : Defers s other) : reference = other := by
  rcases h with h | ⟨hnone, h⟩ <;> rcases h' with h' | ⟨hnone', h'⟩
  · rw [h, Option.some.injEq] at h'
    exact h'
  · rw [h] at hnone'
    cases hnone'
  · rw [hnone] at h'
    cases h'
  · exact h.unique h'

namespace Components

section Walk

variable (components : Components)

/-- The component is an alias with the schema. -/
def IsAlias (component : String) (s : Schema) : Prop :=
  components.lookup component = some s ∧ Target.ofComponent component s = .aliasOf s

/-- The first component is an alias whose kind depends on that of the second. -/
def DefersTo (component other : String) : Prop :=
  ∃ s reference, components.IsAlias component s ∧ Defers s reference ∧
    Naming.referencedComponent? reference = some other

/-- The component is an alias for a list. -/
def IsListAlias (component : String) : Prop :=
  ∃ s, components.IsAlias component s ∧ s.reference = none ∧ s.primaryType? = some "array"

/-- No alias for a list leads back to itself. -/
def Grounded : Prop :=
  ∀ component, components.IsListAlias component →
    ¬Relation.TransGen components.DefersTo component component

/-- The component is on a circle of aliases, or leads to one. -/
def Circles (component : String) : Prop :=
  ∃ other, Relation.ReflTransGen components.DefersTo component other ∧
    Relation.TransGen components.DefersTo other other

end Walk

variable {components : Components}

theorem DefersTo.unique {component other other' : String} (h : components.DefersTo component other)
    (h' : components.DefersTo component other') : other = other' := by
  obtain ⟨s, reference, ⟨hlookup, -⟩, hdefers, hother⟩ := h
  obtain ⟨s', reference', ⟨hlookup', -⟩, hdefers', hother'⟩ := h'
  rw [hlookup, Option.some.injEq] at hlookup'
  subst hlookup'
  rw [← hdefers.unique hdefers', hother, Option.some.injEq] at hother'
  exact hother'

theorem Circles.exists_defersTo {component : String} (h : components.Circles component) :
    ∃ other, components.DefersTo component other ∧ components.Circles other := by
  obtain ⟨last, hpath, hcircle⟩ := h
  rcases hpath.cases_head with rfl | ⟨other, hstep, hpath⟩
  · obtain ⟨other, hstep, hback⟩ := Relation.TransGen.head'_iff.1 hcircle
    exact ⟨other, hstep, component, hback, hcircle⟩
  · exact ⟨other, hstep, last, hpath, hcircle⟩

/-- Behind a reference to an alias, the chain goes on at the component that the alias depends on. -/
theorem defersTo_of_defers {reference component next other : String} {s : Schema}
    (hfind : components.find reference = .ok (component, s))
    (halias : Target.ofComponent component s = .aliasOf s) (h : Defers s next)
    (hother : Naming.referencedComponent? next = some other) :
    components.DefersTo component other :=
  ⟨s, next, ⟨(find_eq_ok_iff.1 hfind).2, halias⟩, h, hother⟩

end Components

/-! ## Stages that come to an end -/

/-- The stage does not run out of looks, whatever names have been given. -/
def Answers {α : Type} (m : Claiming α) : Prop :=
  ∀ n reference, m n ≠ .error (.unresolved (.endless reference))

section Stages

variable {α β : Type} {owner field : String}

theorem answers_pure (a : α) : Answers (pure a : Claiming α) := by
  intro n reference h
  cases h

theorem answers_throw {e : GenerationError}
    (h : ∀ reference, e ≠ .unresolved (.endless reference)) :
    Answers (throw e : Claiming α) := by
  intro n reference hthrow
  cases hthrow
  exact h reference rfl

theorem answers_map {m : Claiming α} (h : Answers m) (f : α → β) : Answers (f <$> m) := by
  intro n reference hmap
  exact h n reference (map_eq_error_iff.1 hmap)

theorem declareEnum_ne_unresolved {n : Names} {name origin : String} {values : List Json}
    {problem : ReferenceProblem} :
    n.declareEnum name values origin ≠ .error (.unresolved problem) := by
  intro h
  unfold Names.declareEnum Names.claimType at h
  split at h
  · dsimp only at h
    split at h <;> cases h
  · split at h
    · next hclaim =>
        split at hclaim <;> cases hclaim
        cases h
    · cases h

theorem answers_textKind (s : Schema) : Answers (textKind owner field s) := by
  unfold textKind
  split
  · exact answers_pure _
  · split
    · exact answers_pure _
    · split
      · exact answers_pure _
      · rw [bind_pure_comp]
        refine answers_map (fun n reference h => ?_) _
        change n.fieldEnum owner field (s.enumeration.getD []) = _ at h
        unfold Names.fieldEnum at h
        simp only at h
        split at h
        · cases h
        · split at h
          · next hdeclare =>
              cases h
              exact declareEnum_ne_unresolved hdeclare
          · cases h

variable (owner field) in
theorem answers_tokenKind (token : String) (s : Schema) :
    Answers (liftM (tokenKind owner field token s) : Claiming Kind) := by
  intro n reference h
  unfold tokenKind at h
  split at h
  · cases h
  · split at h
    · cases h
    · split at h <;> cases h

variable (owner field) in
/-- The kind of a schema that lists a reference is that of the reference, within lists. -/
theorem inlineKind_of_lists {s : Schema} {reference : String} (h : Lists s reference) :
    ∃ wrap : Kind → Kind, ∀ follow,
      inlineKind follow owner field s = wrap <$> follow reference := by
  induction h with
  | items htype hitems hreference =>
      refine ⟨.list, fun follow => ?_⟩
      rw [inlineKind_of_array htype hitems, hreference]
  | @nested s items reference htype hitems hreference h ih =>
      obtain ⟨wrap, hwrap⟩ := ih
      obtain ⟨type, hdecl, -⟩ := exists_type_of_primaryType? h.primaryType?_eq
      refine ⟨fun kind => .list (wrap kind), fun follow => ?_⟩
      rw [inlineKind_of_array htype hitems, hreference, hdecl]
      simp only
      rw [hwrap, Functor.map_map]

variable (owner field) in
/-- The kind of a schema that lists no reference depends on none. -/
theorem inlineKind_of_not_lists (s : Schema) (h : ∀ reference, ¬Lists s reference) :
    ∃ m, Answers m ∧ ∀ follow, inlineKind follow owner field s = m := by
  induction s using inlineKind.induct with
  | case1 s htype =>
      refine ⟨throw (.unsupportedType owner field "<missing>"), answers_throw fun _ => ?_,
        fun follow => ?_⟩
      · exact GenerationError.noConfusion
      · rw [inlineKind, htype]
  | case2 s type htype hstring =>
      refine ⟨textKind owner field s, answers_textKind s, fun follow => ?_⟩
      rw [inlineKind]
      simp only [htype, hstring]
  | case3 s type htype harray hitems =>
      refine ⟨_, answers_pure (.list .unknown), fun follow => ?_⟩
      rw [inlineKind]
      simp only [htype, harray]
      split
      · rfl
      · next hsome =>
          rw [hitems] at hsome
          cases hsome
  | case4 s type htype harray items hitems reference hreference =>
      exact absurd (.items (primaryType?_of_getD htype harray) hitems hreference) (h reference)
  | case5 s type htype harray items hitems hnone hreference =>
      refine ⟨_, answers_pure (.list .unknown), fun follow => ?_⟩
      rw [inlineKind_of_array (primaryType?_of_getD htype harray) hitems, hreference, hnone]
  | case6 s type htype harray items hitems decl hdecl hreference ih =>
      have hlist := primaryType?_of_getD htype harray
      obtain ⟨m, hanswers, hm⟩ := ih fun reference hitem =>
        h reference (.nested hlist hitems hreference hitem)
      refine ⟨_, answers_map hanswers .list, fun follow => ?_⟩
      rw [inlineKind_of_array hlist hitems, hreference, hdecl]
      simp only
      rw [hm]
  | case7 s type htype hstring harray =>
      refine ⟨_, answers_tokenKind owner field (type.primary?.getD "null") s, fun follow => ?_⟩
      rw [inlineKind]
      simp only [htype]

end Stages

/-! ## One look -/

/-- How many aliases stand in a row behind an alias with the schema, if there are `aliases` before
it. -/
def aliasesBehind (aliases : Nat) (s : Schema) : Nat :=
  if s.reference.isSome then aliases + 1 else 0

section Look

variable {components : Components} {owner field reference component : String} {aliases : Nat}
  {s : Schema}

variable (owner field) in
/-- The kind of a reference to an alias is that of the reference that the alias depends on, within
lists, which is looked for with one look less. -/
theorem referenceKind_of_defers {next : String} (haliases : aliases ≤ maxAliases)
    (hfind : components.find reference = .ok (component, s))
    (halias : Target.ofComponent component s = .aliasOf s) (h : Defers s next) :
    ∃ wrap : Kind → Kind, ∀ looks,
      referenceKind components owner field (looks + 1) aliases reference =
        wrap <$> referenceKind components owner field looks (aliasesBehind aliases s) next := by
  have htarget : components.target reference = .ok (.aliasOf s) := by
    rw [Components.target_of_find hfind, halias]
  rcases h with hnext | ⟨hnone, hlists⟩
  · refine ⟨id, fun looks => ?_⟩
    rw [referenceKind, if_neg (Nat.not_lt.2 haliases), htarget, lift_ok_bind, id_map, aliasesBehind]
    simp only [hnext, Option.isSome_some, if_true]
  · obtain ⟨wrap, hwrap⟩ := inlineKind_of_lists owner field hlists
    refine ⟨wrap, fun looks => ?_⟩
    rw [referenceKind, if_neg (Nat.not_lt.2 haliases), htarget, lift_ok_bind, aliasesBehind]
    simp only [hnone, Option.isSome_none, Bool.false_eq_true, if_false, hwrap]

/-- A look at a reference either goes on at the reference that an alias depends on, or decides the
kind, whatever looks are left. -/
theorem referenceKind_cases (components : Components) (owner field reference : String)
    (aliases : Nat) :
    (aliases ≤ maxAliases ∧ ∃ component s next, components.find reference = .ok (component, s) ∧
      Target.ofComponent component s = .aliasOf s ∧ Defers s next) ∨
    ∃ m, Answers m ∧
      ∀ looks, referenceKind components owner field (looks + 1) aliases reference = m := by
  by_cases haliases : maxAliases < aliases
  · refine .inr ⟨throw (.unresolved (.deepAlias reference)), answers_throw fun _ h => ?_,
      fun looks => ?_⟩
    · cases h
    · rw [referenceKind, if_pos haliases]
  · cases hfind : components.find reference with
    | error e =>
        have htarget : components.target reference = .error e := by
          rw [Components.target, hfind]
        refine .inr ⟨throw e, answers_throw fun _ h => ?_, fun looks => ?_⟩
        · rw [Components.find_eq_error hfind] at h
          cases h
        · rw [referenceKind, if_neg haliases, htarget, lift_error_bind]
    | ok found =>
        obtain ⟨component, s⟩ := found
        have htarget := Components.target_of_find hfind
        cases hkind : Target.ofComponent component s with
        | model name =>
            refine .inr ⟨pure (.model name false), answers_pure _, fun looks => ?_⟩
            rw [referenceKind, if_neg haliases, htarget, hkind, lift_ok_bind]
        | enumeration name =>
            refine .inr ⟨pure (.enumeration name), answers_pure _, fun looks => ?_⟩
            rw [referenceKind, if_neg haliases, htarget, hkind, lift_ok_bind]
        | aliasOf named =>
            obtain rfl := eq_of_ofComponent_aliasOf hkind
            by_cases hdefers : ∃ next, Defers named next
            · obtain ⟨next, hdefers⟩ := hdefers
              exact .inl ⟨Nat.not_lt.1 haliases, component, named, next, rfl, hkind, hdefers⟩
            · have hnone : named.reference = none := by
                cases hreference : named.reference with
                | none => rfl
                | some next => exact absurd ⟨next, .inl hreference⟩ hdefers
              obtain ⟨m, hanswers, hm⟩ := inlineKind_of_not_lists owner field named
                fun next hlists => hdefers ⟨next, .inr ⟨hnone, hlists⟩⟩
              refine .inr ⟨m, hanswers, fun looks => ?_⟩
              rw [referenceKind, if_neg haliases, htarget, hkind, lift_ok_bind]
              simp only [hnone]
              exact hm _

/-- Looks that are left over change nothing. -/
theorem referenceKind_succ {looks : Nat} {n : Names}
    (h : ∀ spent, referenceKind components owner field looks aliases reference n ≠
      .error (.unresolved (.endless spent))) :
    referenceKind components owner field (looks + 1) aliases reference n =
      referenceKind components owner field looks aliases reference n := by
  induction looks generalizing aliases reference with
  | zero => exact absurd rfl (h reference)
  | succ looks ih =>
      rcases referenceKind_cases components owner field reference aliases with
        ⟨haliases, component, s, next, hfind, halias, hdefers⟩ | ⟨m, -, hm⟩
      · obtain ⟨wrap, hwrap⟩ := referenceKind_of_defers owner field haliases hfind halias hdefers
        rw [hwrap] at h
        rw [hwrap, hwrap]
        exact map_congr (ih fun spent hspent => h spent (map_eq_error_iff.2 hspent)) wrap
      · rw [hm, hm]

theorem referenceKind_of_le {looks more : Nat} {n : Names}
    (h : ∀ spent, referenceKind components owner field looks aliases reference n ≠
      .error (.unresolved (.endless spent))) (hmore : looks ≤ more) :
    referenceKind components owner field more aliases reference n =
      referenceKind components owner field looks aliases reference n := by
  induction hmore with
  | refl => rfl
  | step _ ih =>
      rw [referenceKind_succ, ih]
      rw [ih]
      exact h

end Look

end TypedClient.Plan
