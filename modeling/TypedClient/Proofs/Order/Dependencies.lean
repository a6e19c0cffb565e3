import Mathlib.Data.List.Nodup
import TypedClient.Proofs.Order.Arrangement
import TypedClient.Proofs.Order.Reachability

/-!
# Dependency order of models

A model depends on those that it refers to, directly or through others. `InOrder` says what it
means for models to be in order: nothing is lost, a model stands behind those that it depends on
unless they depend on it as well, models that depend on each other form one block in their first
order, and forward marks stand exactly where the order leaves them no choice. `orderModels` brings
every list of models with distinct names into order (`inOrder_orderModels`), and so does the loop
with any other way of finding the circles (`inOrder_orderModelsBy`).
-/

namespace TypedClient.Plan

open Relation (TransGen)

/-- A model of the first name refers to a listed model of the second. -/
def Refers (models : List Model) (a b : String) : Prop :=
  (∃ m ∈ models, m.name = a ∧ b ∈ m.references) ∧ b ∈ models.map Model.name

/-- The model of the first name refers to that of the second, directly or through others. -/
def DependsOn (models : List Model) : String → String → Prop := TransGen (Refers models)

/-- What it means for models to be in order. -/
structure InOrder (models ordered : List Model) : Prop where
  /-- The models are those that were given, but for positions and forward marks. -/
  perm : (ordered.map Model.unmarked).Perm (models.map Model.unmarked)
  position_eq : ∀ (i : Nat) (m : Model), ordered[i]? = some m → m.position = i
  /-- A model stands behind those that it depends on, unless they depend on it. -/
  lt_of_dependsOn : ∀ (i j : Nat) (a b : Model), ordered[i]? = some a → ordered[j]? = some b →
    DependsOn models a.name b.name → ¬ DependsOn models b.name a.name → j < i
  /-- Models that depend on each other are one block, in the order in which they were given. -/
  blocks : ∃ blocks : List (List String), blocks.flatten = ordered.map Model.name ∧
    ∀ block ∈ blocks, block.Sublist (models.map Model.name) ∧
      ∀ a ∈ block, ∀ b ∈ models.map Model.name,
        b ∈ block ↔ a = b ∨ DependsOn models a b ∧ DependsOn models b a
  /-- A reference is a forward one if its model stands at the holder's position or later. -/
  forward_iff : ∀ (i : Nat) (m : Model), ordered[i]? = some m → ∀ f ∈ m.fields,
    ∀ name forward, Kind.Part (.model name forward) f.kind →
      (forward = true ↔ ∃ (j : Nat) (t : Model), i ≤ j ∧ ordered[j]? = some t ∧ t.name = name)
  /-- Forward references occur in circles only. -/
  dependsOn_of_forward : ∀ m ∈ ordered, ∀ f ∈ m.fields, ∀ name,
    Kind.Part (.model name true) f.kind → DependsOn models name m.name

/-! ## Positions and names -/

theorem reaches_reachOf_iff (models : List Model) (i j : Nat) :
    (reachOf models).reaches i j = true ↔
      i < models.length ∧ TransGen (Follows (successors models)) i j :=
  Reach.reaches_ofGraph_iff (fun _ _ => lt_of_mem_successors) i j

theorem reaches_reachOf_trans (models : List Model) (i j k : Nat)
    (hij : (reachOf models).reaches i j = true) (hjk : (reachOf models).reaches j k = true) :
    (reachOf models).reaches i k = true :=
  Reach.reaches_ofGraph_trans (fun _ _ => lt_of_mem_successors) i j k hij hjk

section Distinct

variable {models : List Model} (hnames : (models.map Model.name).Nodup)

include hnames

/-- A name has one position. -/
theorem eq_of_getElem?_names {i j : Nat} {name : String}
    (hi : (models.map Model.name)[i]? = some name) (hj : (models.map Model.name)[j]? = some name) :
    i = j :=
  (List.getElem?_inj (List.getElem?_eq_some_iff.1 hi).1 hnames).1 (hi.trans hj.symm)

theorem lastPosition?_eq_some_iff {name : String} {i : Nat} :
    lastPosition? (models.map Model.name) name = some i ↔
      (models.map Model.name)[i]? = some name := by
  constructor
  · exact getElem?_of_lastPosition?
  · intro h
    obtain ⟨j, hj, -⟩ := exists_lastPosition?_of_getElem? h
    rw [hj, eq_of_getElem?_names hnames (getElem?_of_lastPosition? hj) h]

/-- Positions follow each other where names refer to each other. -/
theorem follows_iff_refers {i j : Nat} {a b : String}
    (hi : (models.map Model.name)[i]? = some a) (hj : (models.map Model.name)[j]? = some b) :
    Follows (successors models) i j ↔ Refers models a b := by
  obtain ⟨m, hm, rfl⟩ : ∃ m, models[i]? = some m ∧ m.name = a := by
    simpa [List.getElem?_map] using hi
  have hmem : b ∈ models.map Model.name := List.mem_of_getElem? hj
  unfold Follows successors
  rw [hm]
  constructor
  · intro h
    obtain ⟨name, href, hname⟩ := List.mem_filterMap.1 h
    rw [lastPosition?_eq_some_iff hnames, hj] at hname
    cases hname
    exact ⟨⟨m, List.mem_of_getElem? hm, rfl, href⟩, hmem⟩
  · rintro ⟨⟨m', hm', heq, href⟩, -⟩
    obtain ⟨k, hk⟩ := List.mem_iff_getElem?.1 hm'
    have hki : k = i := by
      refine eq_of_getElem?_names hnames ?_ hi
      rw [List.getElem?_map, hk, Option.map_some, heq]
    rw [hki, hm] at hk
    cases hk
    exact List.mem_filterMap.2 ⟨b, href, (lastPosition?_eq_some_iff hnames).2 hj⟩

/-- A path between positions is a dependency between names. -/
theorem dependsOn_of_transGen {i j : Nat} {a b : String}
    (hi : (models.map Model.name)[i]? = some a) (hj : (models.map Model.name)[j]? = some b)
    (hpath : TransGen (Follows (successors models)) i j) : DependsOn models a b := by
  induction hpath generalizing b with
  | single h => exact TransGen.single ((follows_iff_refers hnames hi hj).1 h)
  | tail hpath h ih =>
      rename_i k l
      have hk : k < (models.map Model.name).length := by
        rw [List.length_map]
        by_contra hle
        rw [Follows, successors_of_length_le (Nat.le_of_not_lt hle)] at h
        cases h
      have hk := List.getElem?_eq_getElem hk
      exact TransGen.tail (ih hk) ((follows_iff_refers hnames hk hj).1 h)

/-- A dependency between names is a path between positions. -/
theorem transGen_of_dependsOn {i j : Nat} {a b : String}
    (hi : (models.map Model.name)[i]? = some a) (hj : (models.map Model.name)[j]? = some b)
    (hdep : DependsOn models a b) : TransGen (Follows (successors models)) i j := by
  induction hdep generalizing j with
  | single h => exact TransGen.single ((follows_iff_refers hnames hi hj).2 h)
  | tail hdep h ih =>
      rename_i c d
      have hc : c ∈ models.map Model.name := by
        obtain ⟨⟨m, hm, hname, -⟩, -⟩ := h
        exact List.mem_map.2 ⟨m, hm, hname⟩
      obtain ⟨k, hk⟩ := List.mem_iff_getElem?.1 hc
      exact TransGen.tail (ih hk) ((follows_iff_refers hnames hk hj).2 h)

theorem reaches_iff_dependsOn {i j : Nat} {a b : String}
    (hi : (models.map Model.name)[i]? = some a) (hj : (models.map Model.name)[j]? = some b) :
    (reachOf models).reaches i j = true ↔ DependsOn models a b := by
  rw [reaches_reachOf_iff]
  constructor
  · rintro ⟨-, hpath⟩
    exact dependsOn_of_transGen hnames hi hj hpath
  · intro hdep
    have hlt := (List.getElem?_eq_some_iff.1 hi).1
    rw [List.length_map] at hlt
    exact ⟨hlt, transGen_of_dependsOn hnames hi hj hdep⟩

theorem sameCycle_iff_dependsOn {i j : Nat} {a b : String}
    (hi : (models.map Model.name)[i]? = some a) (hj : (models.map Model.name)[j]? = some b) :
    (reachOf models).sameCycle i j = true ↔
      a = b ∨ DependsOn models a b ∧ DependsOn models b a := by
  have hij : i = j ↔ a = b := by
    constructor
    · rintro rfl
      exact Option.some.inj (hi.symm.trans hj)
    · rintro rfl
      exact eq_of_getElem?_names hnames hi hj
  rw [Reach.sameCycle_iff, reaches_iff_dependsOn hnames hi hj, reaches_iff_dependsOn hnames hj hi,
    hij]

/-! ## Order of names -/

/-- A name depends on later ones only if they depend on it. -/
theorem pairwise_names_orderModels :
    ((orderModels models).map Model.name).Pairwise fun a b =>
      DependsOn models a b → DependsOn models b a := by
  rw [map_name_orderModels, map_name_arrange]
  refine List.Pairwise.filterMap _ ?_ (Reach.emit_pairwise (reaches_reachOf_trans models) _)
  intro i j hij a hi b hj hdep
  have hreach := (reaches_iff_dependsOn hnames hi hj).2 hdep
  rcases (sameCycle_iff_dependsOn hnames hi hj).1 (hij hreach) with rfl | ⟨-, hback⟩
  · exact hdep
  · exact hback

theorem dependsOn_back_of_lt {i j : Nat} {a b : Model} (hi : (orderModels models)[i]? = some a)
    (hj : (orderModels models)[j]? = some b) (hlt : i < j) (hdep : DependsOn models a.name b.name) :
    DependsOn models b.name a.name := by
  have hpair := pairwise_names_orderModels hnames
  rw [List.pairwise_map, List.pairwise_iff_getElem] at hpair
  obtain ⟨hi', rfl⟩ := List.getElem?_eq_some_iff.1 hi
  obtain ⟨hj', rfl⟩ := List.getElem?_eq_some_iff.1 hj
  exact hpair i j hi' hj' hlt hdep

/-- The circles of positions, read as names, are the blocks of models that depend on each other. -/
theorem exists_blocks :
    ∃ blocks : List (List String), blocks.flatten = (orderModels models).map Model.name ∧
      ∀ block ∈ blocks, block.Sublist (models.map Model.name) ∧
        ∀ a ∈ block, ∀ b ∈ models.map Model.name,
          b ∈ block ↔ a = b ∨ DependsOn models a b ∧ DependsOn models b a := by
  have htrans := reaches_reachOf_trans models
  obtain ⟨firsts, -, hflat⟩ := Reach.emit_eq_flatten htrans (List.range models.length)
  let namesOf := fun positions : List Nat =>
    positions.filterMap fun i => (models.map Model.name)[i]?
  refine ⟨firsts.map fun i => namesOf ((reachOf models).inside i (List.range models.length)),
    ?_, ?_⟩
  · rw [map_name_orderModels, map_name_arrange, emission, hflat, List.filterMap_flatten,
      List.map_map]
    rfl
  · intro block hblock
    obtain ⟨first, -, rfl⟩ := List.mem_map.1 hblock
    refine ⟨?_, ?_⟩
    · have hsub := (List.filter_sublist (p := (reachOf models).sameCycle first)
        (l := List.range models.length)).filterMap fun i => (models.map Model.name)[i]?
      rw [show models.length = (models.map Model.name).length by simp,
        filterMap_getElem?_range] at hsub
      simpa [namesOf, Reach.inside] using hsub
    · intro a ha b hb
      obtain ⟨i, hi, hia⟩ := List.mem_filterMap.1 ha
      obtain ⟨j, hjb⟩ := List.mem_iff_getElem?.1 hb
      have hj : j ∈ List.range models.length := by
        have hlt := (List.getElem?_eq_some_iff.1 hjb).1
        simpa using hlt
      have hcycle := ((Reach.mem_inside first i _).1 hi).2
      rw [← sameCycle_iff_dependsOn hnames hia hjb]
      constructor
      · intro hmem
        obtain ⟨k, hk, hkb⟩ := List.mem_filterMap.1 hmem
        have hkj := eq_of_getElem?_names hnames hkb hjb
        rw [hkj] at hk
        exact Reach.sameCycle_trans htrans (Reach.sameCycle_symm hcycle)
          ((Reach.mem_inside first j _).1 hk).2
      · intro hij
        have hfirst := Reach.sameCycle_trans htrans hcycle hij
        exact List.mem_filterMap.2 ⟨j, (Reach.mem_inside first j _).2 ⟨hj, hfirst⟩, hjb⟩

omit hnames in
/-- A holder depends on every model that it refers to. -/
theorem dependsOn_of_part {m : Model} (hm : m ∈ orderModels models) {f : Field}
    (hf : f ∈ m.fields) {name : String} {forward : Bool}
    (hpart : Kind.Part (.model name forward) f.kind) (hname : name ∈ models.map Model.name) :
    DependsOn models m.name name := by
  obtain ⟨i, hi⟩ := List.mem_iff_getElem?.1 hm
  have href : name ∈ m.references :=
    List.mem_filterMap.2 ⟨f, hf, (Kind.part_model_iff.1 hpart).1⟩
  obtain ⟨given, hgiven, rfl⟩ := exists_of_getElem?_orderModels hi
  rw [Model.references_markedAt] at href
  exact TransGen.single ⟨⟨given, hgiven, rfl, href⟩, hname⟩

end Distinct

/-! ## Main statement -/

theorem forward_iff_exists_position {models : List Model} {i : Nat} {m : Model}
    (hi : (orderModels models)[i]? = some m) {f : Field} (hf : f ∈ m.fields) {name : String}
    {forward : Bool} (hpart : Kind.Part (.model name forward) f.kind) :
    forward = true ↔
      ∃ (j : Nat) (t : Model), i ≤ j ∧ (orderModels models)[j]? = some t ∧ t.name = name := by
  rw [forward_eq_isForwardAt hi hf hpart, isForwardAt_iff]
  constructor
  · rintro ⟨j, hle, hj⟩
    rw [List.getElem?_map] at hj
    obtain ⟨t, ht, hname⟩ := Option.map_eq_some_iff.1 hj
    exact ⟨j, t, hle, ht, hname⟩
  · rintro ⟨j, t, hle, ht, rfl⟩
    refine ⟨j, hle, ?_⟩
    rw [List.getElem?_map, ht, Option.map_some]

/-- Models with distinct names are brought into order. -/
theorem inOrder_orderModels (models : List Model) (hnames : (models.map Model.name).Nodup) :
    InOrder models (orderModels models) where
  perm := by
    rw [orderModels_eq, unmarked_markModels]
    exact (arrange_perm models).map Model.unmarked
  position_eq := by
    intro i m hi
    obtain ⟨given, -, rfl⟩ := exists_of_getElem?_orderModels hi
    rfl
  lt_of_dependsOn := by
    intro i j a b hi hj hdep hback
    rcases Nat.lt_trichotomy j i with hlt | rfl | hlt
    · exact hlt
    · rw [hi] at hj
      cases hj
      exact absurd hdep hback
    · exact absurd (dependsOn_back_of_lt hnames hi hj hlt hdep) hback
  blocks := exists_blocks hnames
  forward_iff := by
    intro i m hi f hf name forward hpart
    exact forward_iff_exists_position hi hf hpart
  dependsOn_of_forward := by
    intro m hm f hf name hpart
    obtain ⟨i, hi⟩ := List.mem_iff_getElem?.1 hm
    obtain ⟨j, t, hle, ht, rfl⟩ := (forward_iff_exists_position hi hf hpart).1 rfl
    have hname : t.name ∈ models.map Model.name :=
      mem_map_name_orderModels.1 (List.mem_map_of_mem (List.mem_of_getElem? ht))
    have hdep := dependsOn_of_part hm hf hpart hname
    rcases Nat.eq_or_lt_of_le hle with rfl | hlt
    · rw [hi] at ht
      cases ht
      exact hdep
    · exact dependsOn_back_of_lt hnames hi ht hlt hdep

/-- Models with distinct names are brought into order, whatever circles the loop is given that are
right. -/
theorem inOrder_orderModelsBy {condensation : (Nat → List Nat) → Nat → Condensed}
    (h : Condenses condensation) (models : List Model) (hnames : (models.map Model.name).Nodup) :
    InOrder models (orderModelsBy condensation models) := by
  rw [orderModelsBy_eq h]
  exact inOrder_orderModels models hnames

/-- A field that refers to a model. -/
def referenceField (target : String) : Field where
  name := target
  wireName := target
  kind := .list (.model target false)
  optional := true
  nullable := false
  visibility := .standard

/-- A report on teams, a team with its employees, who are in a team again and have a badge. -/
def staff : List Model :=
  [("Report", ["Team"]), ("Employee", ["Team", "Badge"]), ("Team", ["Employee"]), ("Badge", [])].map
    fun (name, targets) => {
      name := name
      fields := targets.map referenceField
      validators := []
      origin := .component name }

theorem inOrder_orderModelsBy_staff :
    Condenses condense ∧ (staff.map Model.name).Nodup ∧
      InOrder staff (orderModelsBy condense staff) ∧
      (orderModelsBy condense staff).map Model.name = ["Badge", "Employee", "Team", "Report"] :=
  ⟨condenses_condense, by decide, inOrder_orderModelsBy condenses_condense staff (by decide),
    by decide +kernel⟩

end TypedClient.Plan
