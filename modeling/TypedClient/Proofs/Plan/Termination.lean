import Mathlib.Data.Finset.Card
import TypedClient.Proofs.Plan.BodyLimits
import TypedClient.Proofs.Plan.ReferenceWalks

/-!
# Classification ends

What bounds the walk along references is that every component on it that does not lead back to
itself is left for good, and that those that do are plain references, of which only so many are
followed in a row (`Components.steps_lt`). So the looks that a document is given suffice for every
property, unless some alias for a list leads back to itself, and a circle of plain references is an
unresolved one (`classification_ends`).
-/

namespace TypedClient.Plan

open OpenApi (Schema)
open Claiming

/-! ## Looks that suffice -/

namespace Components

open Classical in
/-- The components behind the component that do not lead back to themselves, itself included. -/
noncomputable def passedOnce (components : Components) (component : String) : Finset String :=
  (components.map Prod.fst).toFinset.filter fun other =>
    Relation.ReflTransGen components.DefersTo component other ∧
      ¬Relation.TransGen components.DefersTo other other

open Classical in
/-- How many components are looked at behind a reference, at most. On a circle the aliases in a row
are used up, and before it a component is left for good. -/
noncomputable def steps (components : Components) (aliases : Nat) (reference : String) : Nat :=
  match Naming.referencedComponent? reference with
  | none => 0
  | some component => (components.passedOnce component).card +
      if Relation.TransGen components.DefersTo component component then maxAliases + 1 - aliases
      else maxAliases + 1

variable {components : Components}

theorem mem_passedOnce {component other : String} : other ∈ components.passedOnce component ↔
    other ∈ components.map Prod.fst ∧ Relation.ReflTransGen components.DefersTo component other ∧
      ¬Relation.TransGen components.DefersTo other other := by
  classical
  rw [passedOnce, Finset.mem_filter, List.mem_toFinset]

theorem passedOnce_subset {component other : String} (h : components.DefersTo component other) :
    components.passedOnce other ⊆ components.passedOnce component := by
  intro last hlast
  rw [mem_passedOnce] at hlast ⊢
  obtain ⟨hmem, hpath, hleft⟩ := hlast
  exact ⟨hmem, .head h hpath, hleft⟩

/-- A component that does not lead back to itself is left for good. -/
theorem card_passedOnce_lt {component other : String} (h : components.DefersTo component other)
    (hleft : ¬Relation.TransGen components.DefersTo component component) :
    (components.passedOnce other).card < (components.passedOnce component).card := by
  apply Finset.card_lt_card
  refine (Finset.ssubset_iff_of_subset (passedOnce_subset h)).2 ⟨component, ?_, ?_⟩
  · obtain ⟨s, -, ⟨hlookup, -⟩, -⟩ := h
    obtain ⟨before, after, hcomponents, -⟩ := List.lookup_eq_some_iff.1 hlookup
    refine mem_passedOnce.2 ⟨?_, .refl, hleft⟩
    rw [hcomponents, List.map_append, List.map_cons]
    exact List.mem_append_right _ List.mem_cons_self
  · intro hmem
    exact hleft (.head' h (mem_passedOnce.1 hmem).2.1)

theorem steps_le (components : Components) (aliases : Nat) (reference : String) :
    components.steps aliases reference ≤ components.length + maxAliases + 1 := by
  unfold steps
  split
  · exact Nat.zero_le _
  · next component _ =>
      have hcard : (components.passedOnce component).card ≤ components.length := by
        classical
        refine (Finset.card_filter_le _ _).trans ((List.toFinset_card_le _).trans ?_)
        rw [List.length_map]
      split <;> omega

/-- A look makes the rest of the walk shorter, if no alias for a list leads back to itself. -/
theorem steps_lt (hgrounded : components.Grounded) {aliases : Nat}
    {reference component next : String} {s : Schema} (haliases : aliases ≤ maxAliases)
    (hfind : components.find reference = .ok (component, s))
    (halias : Target.ofComponent component s = .aliasOf s) (h : Defers s next) :
    components.steps (aliasesBehind aliases s) next < components.steps aliases reference := by
  obtain ⟨hcomponent, hlookup⟩ := find_eq_ok_iff.1 hfind
  cases hother : Naming.referencedComponent? next with
  | none =>
      rw [steps, steps, hother, hcomponent]
      simp only
      split <;> omega
  | some other =>
      have hstep := defersTo_of_defers hfind halias h hother
      rw [steps, steps, hother, hcomponent]
      simp only
      by_cases hcircle : Relation.TransGen components.DefersTo component component
      · -- On a circle there are only plain references, and the walk stays on the circle.
        have hcircle' : Relation.TransGen components.DefersTo other other := by
          obtain ⟨other', hstep', hback⟩ := Relation.TransGen.head'_iff.1 hcircle
          obtain rfl := hstep.unique hstep'
          exact .tail' hback hstep
        have hbehind : aliasesBehind aliases s = aliases + 1 := by
          rcases h with hnext | ⟨hnone, hlists⟩
          · rw [aliasesBehind, hnext]
            rfl
          · exact absurd hcircle
              (hgrounded component ⟨s, ⟨hlookup, halias⟩, hnone, hlists.primaryType?_eq⟩)
        have hcard := Finset.card_le_card (passedOnce_subset hstep)
        rw [if_pos hcircle, if_pos hcircle', hbehind]
        omega
      · have hcard := card_passedOnce_lt hstep hcircle
        rw [if_neg hcircle]
        split <;> omega

end Components

section Ends

variable {components : Components} {owner field : String}

theorem answers_referenceKind (hgrounded : components.Grounded) {looks aliases : Nat}
    {reference : String} (hlooks : components.steps aliases reference < looks) :
    Answers (referenceKind components owner field looks aliases reference) := by
  induction looks generalizing aliases reference with
  | zero => exact absurd hlooks (Nat.not_lt_zero _)
  | succ looks ih =>
      rcases referenceKind_cases components owner field reference aliases with
        ⟨haliases, component, s, next, hfind, halias, hdefers⟩ | ⟨m, hanswers, hm⟩
      · have hlt := Components.steps_lt hgrounded haliases hfind halias hdefers
        obtain ⟨wrap, hwrap⟩ := referenceKind_of_defers owner field haliases hfind halias hdefers
        rw [hwrap]
        exact answers_map (ih (by omega)) wrap
      · rw [hm]
        exact hanswers

variable (owner field) in
/-- A reference that leads to a circle is given up, for too many aliases in a row if the looks are
not spent before. -/
theorem referenceKind_of_circles {component reference : String} (looks aliases : Nat)
    (hcomponent : Naming.referencedComponent? reference = some component)
    (h : components.Circles component) (n : Names) :
    ∃ last, referenceKind components owner field looks aliases reference n =
        .error (.unresolved (.deepAlias last)) ∨
      referenceKind components owner field looks aliases reference n =
        .error (.unresolved (.endless last)) := by
  induction looks generalizing aliases reference component with
  | zero => exact ⟨reference, .inr rfl⟩
  | succ looks ih =>
      by_cases haliases : maxAliases < aliases
      · refine ⟨reference, .inl ?_⟩
        rw [referenceKind, if_pos haliases]
        rfl
      · obtain ⟨other, ⟨s, next, ⟨hlookup, halias⟩, hdefers, hother⟩, hcircles⟩ := h.exists_defersTo
        obtain ⟨wrap, hwrap⟩ := referenceKind_of_defers owner field (Nat.not_lt.1 haliases)
          (Components.find_eq_ok_iff.2 ⟨hcomponent, hlookup⟩) halias hdefers
        obtain ⟨last, hlast⟩ := ih (aliasesBehind aliases s) hother hcircles
        refine ⟨last, ?_⟩
        rw [hwrap, map_eq_error_iff, map_eq_error_iff]
        exact hlast

/-! ## Properties -/

/-- Classifies a property, with a stage that gives the kinds of references. -/
def Components.propertyBy (components : Components) (follow : String → Claiming Kind)
    (owner field : String) (s : Schema) : Claiming Property :=
  match s.reference with
  | some reference => do
    let (_, named) ← liftM (components.find reference)
    let kind ← follow reference
    return {
      kind := kind
      nullable := s.isNullable || named.isNullable
      visibility := .ofFlags (s.readOnly || named.readOnly) (s.writeOnly || named.writeOnly) }
  | none => do
    let kind ← inlineKind follow owner field s
    return {
      kind := kind
      nullable := s.isNullable
      visibility := .ofFlags s.readOnly s.writeOnly }

/-- Classifies a property, looking at no more than `looks` components for one reference. -/
def Components.propertyWithin (components : Components) (looks : Nat) (owner field : String)
    (s : Schema) : Claiming Property :=
  components.propertyBy (Plan.referenceKind components owner field looks 0) owner field s

theorem property_eq_propertyWithin (s : Schema) :
    components.property owner field s =
      components.propertyWithin components.looks owner field s := rfl

theorem propertyBy_of_reference {s : Schema} {reference : String} {found : String × Schema}
    (hreference : s.reference = some reference) (hfind : components.find reference = .ok found)
    (follow : String → Claiming Kind) :
    components.propertyBy follow owner field s =
      (fun kind => ⟨kind, s.isNullable || found.2.isNullable,
        .ofFlags (s.readOnly || found.2.readOnly) (s.writeOnly || found.2.writeOnly)⟩) <$>
        follow reference := by
  unfold Components.propertyBy
  simp only [hreference]
  rw [hfind, lift_ok_bind, map_eq_pure_bind]

theorem propertyBy_of_no_reference {s : Schema} (hnone : s.reference = none)
    (follow : String → Claiming Kind) :
    components.propertyBy follow owner field s =
      (fun kind => ⟨kind, s.isNullable, .ofFlags s.readOnly s.writeOnly⟩) <$>
        inlineKind follow owner field s := by
  unfold Components.propertyBy
  simp only [hnone]
  rw [map_eq_pure_bind]

variable (owner field) in
theorem propertyBy_of_lists {s : Schema} {reference : String} (hnone : s.reference = none)
    (h : Lists s reference) : ∃ finish : Kind → Property, ∀ follow,
      components.propertyBy follow owner field s = finish <$> follow reference := by
  obtain ⟨wrap, hwrap⟩ := inlineKind_of_lists owner field h
  refine ⟨fun kind => ⟨wrap kind, s.isNullable, .ofFlags s.readOnly s.writeOnly⟩, fun follow => ?_⟩
  rw [propertyBy_of_no_reference hnone, hwrap, Functor.map_map]

variable (owner field) in
/-- The kind of a property that depends on that of a component is found there. -/
theorem propertyBy_of_defers {s : Schema} {reference : String} {found : String × Schema}
    (h : Defers s reference) (hfind : components.find reference = .ok found) :
    ∃ finish : Kind → Property, ∀ follow,
      components.propertyBy follow owner field s = finish <$> follow reference := by
  rcases h with hreference | ⟨hnone, hlists⟩
  · exact ⟨_, propertyBy_of_reference hreference hfind⟩
  · exact propertyBy_of_lists owner field hnone hlists

/-- The kind of a property is found at one reference, or depends on none. -/
theorem propertyBy_cases (components : Components) (owner field : String) (s : Schema) :
    (∃ reference, ∃ finish : Kind → Property, ∀ follow,
      components.propertyBy follow owner field s = finish <$> follow reference) ∨
    ∃ m, Answers m ∧ ∀ follow, components.propertyBy follow owner field s = m := by
  cases hreference : s.reference with
  | some reference =>
      cases hfind : components.find reference with
      | ok found => exact .inl ⟨reference, _, propertyBy_of_reference hreference hfind⟩
      | error e =>
          refine .inr ⟨throw e, answers_throw fun _ h => ?_, fun follow => ?_⟩
          · rw [Components.find_eq_error hfind] at h
            cases h
          · unfold Components.propertyBy
            simp only [hreference]
            rw [hfind, lift_error_bind]
  | none =>
      by_cases hlists : ∃ reference, Lists s reference
      · obtain ⟨reference, hlists⟩ := hlists
        exact .inl ⟨reference, propertyBy_of_lists owner field hreference hlists⟩
      · obtain ⟨m, hanswers, hm⟩ := inlineKind_of_not_lists owner field s (not_exists.1 hlists)
        refine .inr ⟨_, answers_map hanswers fun kind =>
          ⟨kind, s.isNullable, .ofFlags s.readOnly s.writeOnly⟩, fun follow => ?_⟩
        rw [propertyBy_of_no_reference hreference, hm]

/-- The looks of a document suffice for a property, if no alias for a list leads back to itself. -/
theorem answers_property (hgrounded : components.Grounded) (s : Schema) :
    Answers (components.property owner field s) := by
  rw [property_eq_propertyWithin, Components.propertyWithin]
  rcases propertyBy_cases components owner field s with
    ⟨reference, finish, hfinish⟩ | ⟨m, hanswers, hm⟩
  · have hsteps := components.steps_le 0 reference
    rw [hfinish]
    exact answers_map (answers_referenceKind hgrounded (by unfold Components.looks; omega)) finish
  · rw [hm]
    exact hanswers

/-- More looks than suffice for a property change nothing. -/
theorem propertyWithin_of_le {s : Schema} {looks more : Nat} {n : Names}
    (h : ∀ spent, components.propertyWithin looks owner field s n ≠
      .error (.unresolved (.endless spent))) (hmore : looks ≤ more) :
    components.propertyWithin more owner field s n =
      components.propertyWithin looks owner field s n := by
  unfold Components.propertyWithin at h ⊢
  rcases propertyBy_cases components owner field s with ⟨reference, finish, hfinish⟩ | ⟨m, -, hm⟩
  · rw [hfinish] at h ⊢
    rw [hfinish]
    exact map_congr (referenceKind_of_le (fun spent hspent => h spent (map_eq_error_iff.2 hspent))
      hmore) finish
  · rw [hm, hm]

/-- A property that leads to a circle of aliases is given up for too many of them in a row, if no
alias for a list leads back to itself. -/
theorem property_of_circles (hgrounded : components.Grounded) {s : Schema}
    {reference component : String} (hdefers : Defers s reference)
    (hcomponent : Naming.referencedComponent? reference = some component)
    (h : components.Circles component) (n : Names) :
    ∃ last, components.property owner field s n = .error (.unresolved (.deepAlias last)) := by
  obtain ⟨other, ⟨s', -, ⟨hlookup, -⟩, -⟩, -⟩ := h.exists_defersTo
  obtain ⟨finish, hfinish⟩ := propertyBy_of_defers owner field hdefers
    (Components.find_eq_ok_iff.2 ⟨hcomponent, hlookup⟩)
  have hproperty : components.property owner field s =
      finish <$> referenceKind components owner field components.looks 0 reference := hfinish _
  obtain ⟨last, hdeep | hspent⟩ :=
    referenceKind_of_circles owner field components.looks 0 hcomponent h n
  · exact ⟨last, by rw [hproperty, map_eq_error_iff, hdeep]⟩
  · have hendless : components.property owner field s n = .error (.unresolved (.endless last)) := by
      rw [hproperty, map_eq_error_iff, hspent]
    exact absurd hendless (answers_property hgrounded s n last)

end Ends

/-- Where no alias for a list leads back to itself, the looks of a document suffice for every
property, more of them change nothing, and a property that leads to a circle of aliases is an
unresolved reference. Primitives and bodies are found within their limits, or some reference is
unresolved, in any document. -/
theorem classification_ends (components : Components) :
    (components.Grounded → ∀ (owner field : String) (s : Schema) (n : Names),
      (∀ reference, components.property owner field s n ≠
        .error (.unresolved (.endless reference))) ∧
      (∀ looks, components.looks ≤ looks →
        components.propertyWithin looks owner field s n = components.property owner field s n) ∧
      (∀ reference component, Defers s reference →
        Naming.referencedComponent? reference = some component → components.Circles component →
        ∃ last, components.property owner field s n = .error (.unresolved (.deepAlias last)))) ∧
    (∀ s, (∃ p, components.primitive? s = .ok p ∧
        ∀ follows, maxAliases < follows → components.primitiveFrom follows s = .ok p) ∨
      ∃ reference, components.primitive? s = .error (.unresolved (.dangling reference))) ∧
    ∀ s, (∃ shape, components.bodyShape s = .ok shape ∧
        ∀ looks, maxAliases < looks → components.bodyShapeFrom looks s = .ok shape) ∨
      (∃ reference, components.bodyShape s = .error (.unresolved (.dangling reference))) ∨
      components.bodyShape s = .error (.unresolved .deepBody) := by
  refine ⟨fun hgrounded owner field s n => ⟨?_, ?_, ?_⟩, fun s => ?_, fun s => ?_⟩
  · exact answers_property hgrounded s n
  · exact fun looks => propertyWithin_of_le (answers_property hgrounded s n)
  · exact fun reference component hdefers hcomponent hcircles =>
      property_of_circles hgrounded hdefers hcomponent hcircles n
  · rcases Components.primitiveFrom_ends components (maxAliases + 1) s with
      ⟨p, hp⟩ | hdangling
    · exact .inl ⟨p, hp _ (Nat.le_refl _), hp⟩
    · exact .inr hdangling
  · rcases Components.bodyShapeFrom_ends components (maxAliases + 1) s with
      ⟨shape, hshape⟩ | herror
    · exact .inl ⟨shape, hshape _ (Nat.le_refl _), hshape⟩
    · exact .inr herror

/-! ## Nodes -/

/-- Nodes that refer to themselves, through lists of lists too, and two aliases for each other. -/
def nodes : Components := [
  ("Node", { type := some (.one "object"), properties := some [
    ("next", { reference := some "#/components/schemas/Node" }),
    ("children", { reference := some "#/components/schemas/Rows" })] }),
  ("Rows", { type := some (.one "array"), items := some {
    type := some (.one "array"), items := some {
      reference := some "#/components/schemas/Node" } } }),
  ("Left", { reference := some "#/components/schemas/Right" }),
  ("Right", { reference := some "#/components/schemas/Left" })]

theorem defersTo_nodes {component other : String} (h : nodes.DefersTo component other) :
    component = "Rows" ∧ other = "Node" ∨ component = "Left" ∧ other = "Right" ∨
      component = "Right" ∧ other = "Left" := by
  obtain ⟨s, reference, ⟨hlookup, halias⟩, hdefers, hother⟩ := h
  obtain ⟨before, after, hnodes, -⟩ := List.lookup_eq_some_iff.1 hlookup
  have hmem : (component, s) ∈ nodes := hnodes ▸ List.mem_append_right _ List.mem_cons_self
  simp only [nodes, List.mem_cons, Prod.mk.injEq, List.not_mem_nil, or_false] at hmem
  rcases hmem with ⟨rfl, rfl⟩ | ⟨rfl, rfl⟩ | ⟨rfl, rfl⟩ | ⟨rfl, rfl⟩
  · cases halias
  · obtain rfl := hdefers.unique (.inr ⟨rfl, .nested rfl rfl rfl (.items rfl rfl rfl)⟩)
    cases hother
    exact .inl ⟨rfl, rfl⟩
  · obtain rfl := hdefers.unique (.inl rfl)
    cases hother
    exact .inr (.inl ⟨rfl, rfl⟩)
  · obtain rfl := hdefers.unique (.inl rfl)
    cases hother
    exact .inr (.inr ⟨rfl, rfl⟩)

theorem grounded_nodes : nodes.Grounded := by
  rintro component ⟨s, ⟨hlookup, halias⟩, hnone, htype⟩ hcircle
  obtain ⟨other, hstep, hback⟩ := Relation.TransGen.head'_iff.1 hcircle
  rcases defersTo_nodes hstep with ⟨rfl, rfl⟩ | ⟨rfl, rfl⟩ | ⟨rfl, rfl⟩
  · rcases hback.cases_head with hnode | ⟨last, hstep', -⟩
    · exact absurd hnode (by decide)
    · rcases defersTo_nodes hstep' with ⟨h, -⟩ | ⟨h, -⟩ | ⟨h, -⟩ <;> exact absurd h (by decide)
  · cases hlookup
    cases hnone
  · cases hlookup
    cases hnone

theorem circles_left : nodes.Circles "Left" := by
  have hleft : nodes.DefersTo "Left" "Right" :=
    ⟨_, "#/components/schemas/Right", ⟨rfl, rfl⟩, .inl rfl, rfl⟩
  have hright : nodes.DefersTo "Right" "Left" :=
    ⟨_, "#/components/schemas/Left", ⟨rfl, rfl⟩, .inl rfl, rfl⟩
  exact ⟨"Left", .refl, .head hleft (.single hright)⟩

theorem classification_ends_nodes :
    nodes.Grounded ∧
    (∀ looks, nodes.looks ≤ looks → nodes.propertyWithin looks "Node" "next"
      { reference := some "#/components/schemas/Node" } {} =
        .ok (⟨.model "Node" false, false, .standard⟩, {})) ∧
    (∀ reference, nodes.property "Node" "children"
      { reference := some "#/components/schemas/Rows" } {} ≠
        .error (.unresolved (.endless reference))) ∧
    ∃ last, nodes.property "Node" "side" { reference := some "#/components/schemas/Left" } {} =
      .error (.unresolved (.deepAlias last)) := by
  have hends := (classification_ends nodes).1 grounded_nodes
  refine ⟨grounded_nodes, fun looks hlooks => ?_, ?_, ?_⟩
  · exact (hends "Node" "next" _ {}).2.1 looks hlooks
  · exact (hends "Node" "children" _ {}).1
  · exact (hends "Node" "side" _ {}).2.2 _ "Left" (.inl rfl) rfl circles_left

end TypedClient.Plan
