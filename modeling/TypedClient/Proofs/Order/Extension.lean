import TypedClient.Proofs.Order.Dependencies

/-!
# Models that nothing refers to

Models to which no model refers do not disturb the order of the others. If they are listed last,
they are emitted last and in the order in which they are listed, and every model in front of them
gets the position and the forward marks that it has without them (`orderModels_append`). On the
level of nodes this is `Reach.emit_append`: nodes that are not reached do not count for what is
ready.
-/

namespace TypedClient.Plan

open Relation (TransGen)

/-! ## Emission -/

namespace Reach

variable {r r' : Reach} {pending others : List Nat}

theorem find?_congr {p q : Nat → Bool} (h : ∀ i ∈ pending, p i = q i) :
    pending.find? p = pending.find? q := by
  rw [← List.head?_filter, ← List.head?_filter, List.filter_congr h]

theorem sameCycle_congr {i j : Nat} (hij : r.reaches i j = r'.reaches i j)
    (hji : r.reaches j i = r'.reaches j i) : r.sameCycle i j = r'.sameCycle i j := by
  rw [sameCycle, sameCycle, hij, hji]

theorem isReady_congr (h : ∀ i ∈ pending, ∀ j ∈ pending, r.reaches i j = r'.reaches i j) :
    ∀ i ∈ pending, r.isReady pending i = r'.isReady pending i := by
  intro i hi
  rw [Bool.eq_iff_iff, isReady, isReady, List.all_eq_true, List.all_eq_true]
  refine forall₂_congr fun j hj => ?_
  rw [h i hi j hj, sameCycle_congr (h i hi j hj) (h j hj i hi)]

/-- The order of nodes depends on nothing but what they reach among each other. -/
theorem emit_congr (h : ∀ i ∈ pending, ∀ j ∈ pending, r.reaches i j = r'.reaches i j) :
    r.emit pending = r'.emit pending := by
  fun_induction emit r pending with
  | case1 pending hnone =>
      have hready : ∀ i ∈ pending, r.isReady pending i = r'.isReady pending i := isReady_congr h
      rw [emit_of_find?_eq_none (by rw [← find?_congr hready, hnone])]
  | case2 pending i hsome ih =>
      have hready : ∀ i ∈ pending, r.isReady pending i = r'.isReady pending i := isReady_congr h
      have hi := List.mem_of_find?_eq_some hsome
      have hsome' : pending.find? (r'.isReady pending) = some i := by
        rw [← find?_congr hready, hsome]
      have hcycle : ∀ j ∈ pending, r.sameCycle i j = r'.sameCycle i j :=
        fun j hj => sameCycle_congr (h i hi j hj) (h j hj i hi)
      have hinside : r.inside i pending = r'.inside i pending := List.filter_congr hcycle
      have houtside : r.outside i pending = r'.outside i pending :=
        List.filter_congr fun j hj => by rw [hcycle j hj]
      have hmem : ∀ j ∈ r.outside i pending, j ∈ pending :=
        fun j hj => ((mem_outside i j pending).1 hj).1
      rw [emit_of_find?_eq_some hsome', ih fun j hj k hk => h j (hmem j hj) k (hmem k hk), hinside,
        houtside]

section Unreached

variable (hothers : ∀ i, ∀ j ∈ others, r.reaches i j = false)

include hothers

theorem sameCycle_unreached {i j : Nat} (hj : j ∈ others) : r.sameCycle i j = (i == j) := by
  rw [sameCycle, hothers i j hj, Bool.false_and, Bool.or_false]

/-- Nodes that are not reached are not waited for. -/
theorem isReady_append (i : Nat) : r.isReady (pending ++ others) i = r.isReady pending i := by
  have hall : others.all (fun j => r.sameCycle i j || !r.reaches i j) = true := by
    rw [List.all_eq_true]
    intro j hj
    rw [hothers i j hj, Bool.not_false, Bool.or_true]
  rw [isReady, List.all_append, hall, Bool.and_true, isReady]

/-- Nodes that are not reached are emitted in their order. -/
theorem emit_unreached (hnodup : others.Nodup) : r.emit others = others := by
  induction others with
  | nil => exact emit_of_find?_eq_none rfl
  | cons i others ih =>
      obtain ⟨hi, hnodup⟩ := List.nodup_cons.1 hnodup
      have hcycle : ∀ j ∈ others, r.sameCycle i j = false := by
        intro j hj
        rw [sameCycle_unreached hothers (List.mem_cons_of_mem i hj)]
        exact beq_false_of_ne fun heq => hi (heq ▸ hj)
      have hfind : (i :: others).find? (r.isReady (i :: others)) = some i := by
        have hready : r.isReady ([] ++ i :: others) i = r.isReady [] i := isReady_append hothers i
        rw [List.find?_cons_of_pos]
        exact hready
      have hinside : r.inside i (i :: others) = [i] := by
        rw [inside, List.filter_cons_of_pos (sameCycle_self r i), List.filter_eq_nil_iff.2]
        intro j hj
        simp [hcycle j hj]
      have houtside : r.outside i (i :: others) = others := by
        rw [outside, List.filter_cons_of_neg (by simp [sameCycle_self]), List.filter_eq_self]
        intro j hj
        simp [hcycle j hj]
      rw [emit_of_find?_eq_some hfind, hinside, houtside,
        ih (fun j k hk => hothers j k (List.mem_cons_of_mem i hk)) hnodup, List.singleton_append]

/-- Nodes that are not reached are emitted last, and the others as if they were alone. -/
theorem emit_append
    (htrans : ∀ i j k, r.reaches i j = true → r.reaches j k = true → r.reaches i k = true)
    (hnodup : others.Nodup) (hdisjoint : pending.Disjoint others) :
    r.emit (pending ++ others) = r.emit pending ++ others := by
  fun_induction emit r pending with
  | case1 pending hnone =>
      rw [eq_nil_of_find?_eq_none htrans hnone, List.nil_append]
      exact emit_unreached hothers hnodup
  | case2 pending i hsome ih =>
      have hi := List.mem_of_find?_eq_some hsome
      have hne : ∀ j ∈ others, r.sameCycle i j = false := by
        intro j hj
        rw [sameCycle_unreached hothers hj]
        exact beq_false_of_ne fun heq => hdisjoint hi (heq ▸ hj)
      -- the next node is the same with and without the others, and its circle holds none of them
      have hfind : (pending ++ others).find? (r.isReady (pending ++ others)) = some i := by
        rw [find?_congr fun j _ => isReady_append hothers j, List.find?_append, hsome,
          Option.some_or]
      have hinside : r.inside i (pending ++ others) = r.inside i pending := by
        have hnil : others.filter (r.sameCycle i) = [] := by
          rw [List.filter_eq_nil_iff]
          intro j hj
          simp [hne j hj]
        rw [inside, List.filter_append, hnil, List.append_nil, inside]
      have houtside : r.outside i (pending ++ others) = r.outside i pending ++ others := by
        have hself : others.filter (fun j => !r.sameCycle i j) = others := by
          rw [List.filter_eq_self]
          intro j hj
          simp [hne j hj]
        rw [outside, List.filter_append, hself, outside]
      rw [emit_of_find?_eq_some hfind, hinside, houtside, ih, List.append_assoc]
      intro j hj
      exact hdisjoint ((mem_outside i j pending).1 hj).1

end Unreached

end Reach

/-! ## Models -/

theorem lastPosition?_append_of_not_mem {names others : List String} {name : String}
    (h : name ∉ others) : lastPosition? (names ++ others) name = lastPosition? names name := by
  induction others using List.reverseRec with
  | nil => rw [List.append_nil]
  | append_singleton others other ih =>
      rw [List.mem_append, List.mem_singleton, not_or] at h
      rw [← List.append_assoc, lastPosition?_append_singleton, if_neg (by simpa using Ne.symm h.2),
        ih h.1]

theorem lt_of_lastPosition? {names : List String} {name : String} {i : Nat}
    (h : lastPosition? names name = some i) : i < names.length :=
  (List.getElem?_eq_some_iff.1 (getElem?_of_lastPosition? h)).1

theorem Kind.mapModel_congr {f g : String → Bool → String × Bool} {kind : Kind}
    (h : ∀ name ∈ kind.model?, ∀ forward, f name forward = g name forward) :
    kind.mapModel f = kind.mapModel g := by
  induction kind with
  | list items ih => rw [mapModel_list, mapModel_list, ih h]
  | model name forward => rw [mapModel, mapModel, h name rfl]
  | _ => rfl

theorem Model.mapReferences_congr {f g : String → Bool → String × Bool} {m : Model}
    (h : ∀ name ∈ m.references, ∀ forward, f name forward = g name forward) :
    m.mapReferences f = m.mapReferences g := by
  have hfields : m.fields.map (fun field => { field with kind := field.kind.mapModel f }) =
      m.fields.map fun field => { field with kind := field.kind.mapModel g } := by
    apply List.map_congr_left
    intro field hfield
    rw [Kind.mapModel_congr fun name hname => h name (List.mem_filterMap.2 ⟨field, hfield, hname⟩)]
  unfold Model.mapReferences
  rw [hfields]

/-- A model at a position, without forward references. -/
def Model.unmarkedAt (position : Nat) (m : Model) : Model :=
  { m.unmarked with position := position }

section Extension

variable {models others : List Model}

/-- No model refers to one of the others. -/
def Unreferred (models others : List Model) : Prop :=
  ∀ m ∈ models ++ others, ∀ name ∈ m.references, name ∉ others.map Model.name

variable (h : Unreferred models others)

include h

theorem filterMap_lastPosition?_append {m : Model} (hm : m ∈ models ++ others) :
    m.references.filterMap (lastPosition? ((models ++ others).map Model.name)) =
      m.references.filterMap (lastPosition? (models.map Model.name)) := by
  apply List.filterMap_congr
  intro name hname
  rw [List.map_append, lastPosition?_append_of_not_mem (h m hm name hname)]

theorem successors_append_of_lt {i : Nat} (hi : i < models.length) :
    successors (models ++ others) i = successors models i := by
  unfold successors
  rw [List.getElem?_append_left hi, List.getElem?_eq_getElem hi]
  exact filterMap_lastPosition?_append h (List.mem_append_left _ (List.getElem_mem hi))

theorem lt_of_mem_successors_append {i j : Nat} (hj : j ∈ successors (models ++ others) i) :
    j < models.length := by
  unfold successors at hj
  split at hj
  · cases hj
  · next m hm =>
      rw [filterMap_lastPosition?_append h (List.mem_of_getElem? hm)] at hj
      obtain ⟨name, -, hname⟩ := List.mem_filterMap.1 hj
      simpa using lt_of_lastPosition? hname

theorem lt_of_transGen_append {i j : Nat}
    (hpath : TransGen (Follows (successors (models ++ others))) i j) : j < models.length := by
  cases hpath with
  | single hij => exact lt_of_mem_successors_append h hij
  | tail _ hkj => exact lt_of_mem_successors_append h hkj

/-- The first models reach each other as if they were alone. -/
theorem transGen_append_iff {i j : Nat} (hi : i < models.length) :
    TransGen (Follows (successors (models ++ others))) i j ↔
      TransGen (Follows (successors models)) i j := by
  have hstep : ∀ {k l : Nat}, k < models.length →
      (Follows (successors (models ++ others)) k l ↔ Follows (successors models) k l) := by
    intro k l hk
    rw [Follows, Follows, successors_append_of_lt h hk]
  constructor
  · intro hpath
    induction hpath with
    | single hij => exact TransGen.single ((hstep hi).1 hij)
    | tail hik hkl ih => exact TransGen.tail ih ((hstep (lt_of_transGen_append h hik)).1 hkl)
  · intro hpath
    induction hpath with
    | single hij => exact TransGen.single ((hstep hi).2 hij)
    | tail hik hkl ih => exact TransGen.tail ih ((hstep (lt_of_transGen_append h ih)).2 hkl)

theorem emission_append :
    emission (models ++ others) =
      emission models ++ (List.range others.length).map (models.length + ·) := by
  have hunreached : ∀ i, ∀ j ∈ (List.range others.length).map (models.length + ·),
      (reachOf (models ++ others)).reaches i j = false := by
    intro i j hj
    obtain ⟨k, -, rfl⟩ := List.mem_map.1 hj
    rw [← Bool.not_eq_true, reaches_reachOf_iff]
    rintro ⟨-, hpath⟩
    have hlt := lt_of_transGen_append h hpath
    omega
  have halone : ∀ i ∈ List.range models.length, ∀ j ∈ List.range models.length,
      (reachOf (models ++ others)).reaches i j = (reachOf models).reaches i j := by
    intro i hi j _
    have hi := List.mem_range.1 hi
    rw [Bool.eq_iff_iff, reaches_reachOf_iff, reaches_reachOf_iff, transGen_append_iff h hi,
      List.length_append]
    exact and_congr_left fun _ => ⟨fun _ => hi, fun _ => by omega⟩
  have hnodup : (List.range models.length ++
      (List.range others.length).map (models.length + ·)).Nodup := by
    rw [← List.range_add]
    exact List.nodup_range
  rw [List.nodup_append'] at hnodup
  unfold emission
  rw [List.length_append, List.range_add, Reach.emit_append hunreached
    (reaches_reachOf_trans (models ++ others)) hnodup.2.1 hnodup.2.2, Reach.emit_congr halone]

/-- The others are emitted last, in the order in which they are listed. -/
theorem arrange_append : arrange (models ++ others) = arrange models ++ others := by
  have hmodels : (emission models).filterMap (fun i => (models ++ others)[i]?) =
      (emission models).filterMap fun i => models[i]? := by
    apply List.filterMap_congr
    intro i hi
    exact List.getElem?_append_left (List.mem_range.1 ((emission_perm models).subset hi))
  have hothers : ((List.range others.length).map (models.length + ·)).filterMap
      (fun i => (models ++ others)[i]?) = others := by
    rw [List.filterMap_map]
    refine Eq.trans (List.filterMap_congr fun i _ => ?_) (filterMap_getElem?_range others)
    rw [Function.comp_apply, List.getElem?_append_right (Nat.le_add_right _ _),
      Nat.add_sub_cancel_left]
  rw [arrange_eq, emission_append h, List.filterMap_append, hmodels, hothers, ← arrange_eq]

/-- The first models are marked as if they were alone, and the others hold no forward references. -/
theorem orderModels_append :
    orderModels (models ++ others) = orderModels models ++
      (others.zipIdx models.length).map fun m => m.1.unmarkedAt m.2 := by
  have hnot : ∀ m ∈ arrange models ++ others, ∀ name ∈ m.references,
      name ∉ others.map Model.name := by
    intro m hm
    rw [← arrange_append h] at hm
    exact h m ((arrange_perm _).subset hm)
  have hlength : (arrange models).length = models.length := (arrange_perm models).length_eq
  rw [orderModels_eq, arrange_append h, orderModels_eq, ← hlength]
  unfold markModels
  rw [List.zipIdx_append, List.map_append, Nat.zero_add]
  congr 1
  · apply List.map_congr_left
    intro x hx
    have hm : x.1 ∈ arrange models ++ others :=
      List.mem_append_left _ (List.fst_mem_of_mem_zipIdx hx)
    simp only
    rw [Model.mapReferences_congr fun name hname _ => ?_]
    rw [isForwardAt, List.map_append, lastPosition?_append_of_not_mem (hnot x.1 hm name hname),
      isForwardAt]
  · -- whatever one of the others refers to stands in front of it, so nothing is marked
    apply List.map_congr_left
    intro x hx
    have hm : x.1 ∈ arrange models ++ others :=
      List.mem_append_right _ (List.fst_mem_of_mem_zipIdx hx)
    unfold Model.unmarkedAt Model.unmarked
    simp only
    rw [Model.mapReferences_congr fun name hname _ => ?_]
    rw [isForwardAt, List.map_append, lastPosition?_append_of_not_mem (hnot x.1 hm name hname)]
    split
    · next target htarget =>
        have hlt := lt_of_lastPosition? htarget
        have hle := List.le_snd_of_mem_zipIdx hx
        rw [List.length_map] at hlt
        simp only [Prod.mk.injEq, true_and, decide_eq_false_iff_not]
        omega
    · rfl

end Extension

end TypedClient.Plan
