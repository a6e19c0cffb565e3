import Mathlib.Data.List.Nodup
import TypedClient.Proofs.Order.Emission
import TypedClient.Proofs.Order.Reachability

/-!
# Circles of a graph

`IsCondensation` says what is expected of the circles of a graph and of the edges between them: the
circles hold every node once, two nodes are in one circle exactly when they reach each other, and an
edge leads from one circle to another exactly when a node of the first is followed by one of the
second. In which order the circles are listed, and how often an edge is, is left open. `condense`
finds such circles in every graph (`condenses_condense`).
-/

namespace TypedClient.Plan

open Relation (TransGen)

/-- The circles of a graph with `size` nodes, and the edges between them. -/
structure IsCondensation (next : Nat → List Nat) (size : Nat) (c : Condensed) : Prop where
  perm : c.circles.flatten.Perm (List.range size)
  ne_nil : ∀ circle ∈ c.circles, circle ≠ []
  /-- A circle is made up of nodes that reach each other. -/
  mem_iff : ∀ circle ∈ c.circles, ∀ i ∈ circle, ∀ j < size,
    j ∈ circle ↔ i = j ∨ TransGen (Follows next) i j ∧ TransGen (Follows next) j i
  /-- The edges between circles are those between their nodes. -/
  mem_edges_iff : ∀ a b, (a, b) ∈ c.edges ↔
    a ≠ b ∧ ∃ i ∈ c.circle a, ∃ j ∈ c.circle b, Follows next i j

/-- What is expected of a function that finds circles. -/
def Condenses (condensation : (Nat → List Nat) → Nat → Condensed) : Prop :=
  ∀ next size, (∀ i, ∀ j ∈ next i, j < size) → IsCondensation next size (condensation next size)

theorem Condensed.mem_circle_iff {c : Condensed} {a i : Nat} :
    i ∈ c.circle a ↔ ∃ circle, c.circles[a]? = some circle ∧ i ∈ circle := by
  unfold circle
  rw [List.getD_eq_getElem?_getD]
  cases c.circles[a]? with
  | none => simp
  | some circle => simp

theorem Condensed.lt_length_of_mem_circle {c : Condensed} {a i : Nat} (h : i ∈ c.circle a) :
    a < c.circles.length := by
  obtain ⟨circle, hcircle, -⟩ := mem_circle_iff.1 h
  exact (List.getElem?_eq_some_iff.1 hcircle).1

theorem Condensed.mem_flatten_of_mem_circle {c : Condensed} {a i : Nat} (h : i ∈ c.circle a) :
    i ∈ c.circles.flatten := by
  obtain ⟨circle, hcircle, hi⟩ := mem_circle_iff.1 h
  exact List.mem_flatten_of_mem (List.mem_of_getElem? hcircle) hi

/-- A node that is held once is in one circle. -/
theorem Condensed.eq_of_mem_circle {c : Condensed} (hnodup : c.circles.flatten.Nodup) {a b i : Nat}
    (ha : i ∈ c.circle a) (hb : i ∈ c.circle b) : a = b := by
  obtain ⟨first, hfirst, hi⟩ := mem_circle_iff.1 ha
  obtain ⟨second, hsecond, hi'⟩ := mem_circle_iff.1 hb
  obtain ⟨hlt, rfl⟩ := List.getElem?_eq_some_iff.1 hfirst
  obtain ⟨hlt', rfl⟩ := List.getElem?_eq_some_iff.1 hsecond
  have hdisjoint := List.pairwise_iff_getElem.1 (List.nodup_flatten.1 hnodup).2
  rcases Nat.lt_trichotomy a b with hab | rfl | hba
  · exact absurd hi' (hdisjoint a b hlt hlt' hab hi)
  · rfl
  · exact absurd hi (hdisjoint b a hlt' hlt hba hi')

/-! ## What follows for any circles -/

namespace IsCondensation

variable {next : Nat → List Nat} {size : Nat} {c : Condensed} (h : IsCondensation next size c)

include h

theorem nodup_flatten : c.circles.flatten.Nodup := h.perm.nodup_iff.2 List.nodup_range

theorem lt_of_mem_circle {a i : Nat} (hi : i ∈ c.circle a) : i < size :=
  List.mem_range.1 (h.perm.subset (Condensed.mem_flatten_of_mem_circle hi))

/-- Every node is in a circle. -/
theorem exists_circle {i : Nat} (hi : i < size) : ∃ a, i ∈ c.circle a := by
  obtain ⟨circle, hcircle, hi⟩ := List.mem_flatten.1 (h.perm.symm.subset (List.mem_range.2 hi))
  obtain ⟨a, ha⟩ := List.mem_iff_getElem?.1 hcircle
  exact ⟨a, Condensed.mem_circle_iff.2 ⟨circle, ha, hi⟩⟩

/-- A node is in one circle. -/
theorem eq_of_mem_circle {a b i : Nat} (ha : i ∈ c.circle a) (hb : i ∈ c.circle b) : a = b :=
  Condensed.eq_of_mem_circle h.nodup_flatten ha hb

theorem nodup_circle (a : Nat) : (c.circle a).Nodup := by
  unfold Condensed.circle
  rw [List.getD_eq_getElem?_getD]
  cases ha : c.circles[a]? with
  | none => exact List.nodup_nil
  | some circle => exact (List.nodup_flatten.1 h.nodup_flatten).1 circle (List.mem_of_getElem? ha)

theorem circle_ne_nil {a : Nat} (ha : a < c.circles.length) : c.circle a ≠ [] := by
  unfold Condensed.circle
  rw [List.getD_eq_getElem?_getD, List.getElem?_eq_getElem ha]
  exact h.ne_nil _ (List.getElem_mem ha)

/-- Two nodes are in one circle if they reach each other. -/
theorem sameCycle_iff_mem_circle (hnext : ∀ i, ∀ j ∈ next i, j < size) {a i j : Nat}
    (hi : i ∈ c.circle a) (hj : j < size) :
    (Reach.ofGraph next size).sameCycle i j = true ↔ j ∈ c.circle a := by
  have hsize := h.lt_of_mem_circle hi
  obtain ⟨circle, hcircle, hi⟩ := Condensed.mem_circle_iff.1 hi
  have hmem : j ∈ c.circle a ↔ j ∈ circle := by
    rw [Condensed.mem_circle_iff, hcircle]
    simp
  rw [hmem, h.mem_iff circle (List.mem_of_getElem? hcircle) i hi j hj, Reach.sameCycle_iff,
    Reach.reaches_ofGraph_iff hnext, Reach.reaches_ofGraph_iff hnext]
  simp only [hsize, hj, true_and]

end IsCondensation

/-! ## Circles by their first nodes -/

section Condense

variable {next : Nat → List Nat} {size : Nat} (hnext : ∀ i, ∀ j ∈ next i, j < size)

/-- The nodes that come first in their circles. -/
def firstNodes (next : Nat → List Nat) (size : Nat) : List Nat :=
  (List.range size).filter fun i =>
    (List.range size).find? ((Reach.ofGraph next size).sameCycle i) == some i

/-- The circle of a node, in order. -/
def circleAround (next : Nat → List Nat) (size i : Nat) : List Nat :=
  (List.range size).filter ((Reach.ofGraph next size).sameCycle i)

theorem circles_condense :
    (condense next size).circles = (firstNodes next size).map (circleAround next size) := rfl

theorem mem_circleAround {i j : Nat} :
    j ∈ circleAround next size i ↔ j < size ∧ (Reach.ofGraph next size).sameCycle i j = true := by
  rw [circleAround, List.mem_filter, List.mem_range]

theorem mem_firstNodes {i : Nat} :
    i ∈ firstNodes next size ↔ i < size ∧
      (List.range size).find? ((Reach.ofGraph next size).sameCycle i) = some i := by
  rw [firstNodes, List.mem_filter, List.mem_range, beq_iff_eq]

include hnext

/-- Every node is in the circle of a first node. -/
theorem exists_firstNode {j : Nat} (hj : j < size) :
    ∃ i ∈ firstNodes next size, (Reach.ofGraph next size).sameCycle i j = true := by
  have htrans := Reach.reaches_ofGraph_trans hnext
  obtain ⟨i, hi⟩ : ∃ i, (List.range size).find? ((Reach.ofGraph next size).sameCycle j) = some i :=
    Option.isSome_iff_exists.1 (List.find?_isSome.2
      ⟨j, List.mem_range.2 hj, Reach.sameCycle_self _ j⟩)
  have hji := List.find?_some hi
  refine ⟨i, mem_firstNodes.2 ⟨List.mem_range.1 (List.mem_of_find?_eq_some hi), ?_⟩,
    Reach.sameCycle_symm hji⟩
  rw [← hi]
  congr 1
  funext k
  rw [Bool.eq_iff_iff]
  exact ⟨Reach.sameCycle_trans htrans hji, Reach.sameCycle_trans htrans (Reach.sameCycle_symm hji)⟩

/-- First nodes of one circle are the same. -/
theorem eq_of_sameCycle_firstNodes {i j : Nat} (hi : i ∈ firstNodes next size)
    (hj : j ∈ firstNodes next size) (hij : (Reach.ofGraph next size).sameCycle i j = true) :
    i = j := by
  have htrans := Reach.reaches_ofGraph_trans hnext
  have heq : (Reach.ofGraph next size).sameCycle i = (Reach.ofGraph next size).sameCycle j := by
    funext k
    rw [Bool.eq_iff_iff]
    exact ⟨Reach.sameCycle_trans htrans (Reach.sameCycle_symm hij),
      Reach.sameCycle_trans htrans hij⟩
  have hfind := (mem_firstNodes.1 hi).2
  rw [heq, (mem_firstNodes.1 hj).2] at hfind
  exact (Option.some.inj hfind).symm

theorem perm_flatten_condense : (condense next size).circles.flatten.Perm (List.range size) := by
  have htrans := Reach.reaches_ofGraph_trans hnext
  rw [circles_condense]
  refine (List.perm_ext_iff_of_nodup ?_ List.nodup_range).2 fun j => ?_
  · rw [List.nodup_flatten, List.pairwise_map]
    refine ⟨?_, ?_⟩
    · intro circle hcircle
      obtain ⟨i, -, rfl⟩ := List.mem_map.1 hcircle
      exact List.nodup_range.filter _
    · have hfirst : (firstNodes next size).Nodup := List.nodup_range.filter _
      refine hfirst.imp_of_mem ?_
      intro i j hi hj hne k hik hjk
      refine hne (eq_of_sameCycle_firstNodes hnext hi hj ?_)
      exact Reach.sameCycle_trans htrans (mem_circleAround.1 hik).2
        (Reach.sameCycle_symm (mem_circleAround.1 hjk).2)
  · rw [← List.flatMap_def, List.mem_flatMap, List.mem_range]
    constructor
    · rintro ⟨i, -, hj⟩
      exact (mem_circleAround.1 hj).1
    · intro hj
      obtain ⟨i, hi, hij⟩ := exists_firstNode hnext hj
      exact ⟨i, hi, mem_circleAround.2 ⟨hj, hij⟩⟩

theorem mem_circle_condense_iff {circle : List Nat}
    (hcircle : circle ∈ (condense next size).circles) {i j : Nat} (hi : i ∈ circle)
    (hj : j < size) :
    j ∈ circle ↔ (Reach.ofGraph next size).sameCycle i j = true := by
  have htrans := Reach.reaches_ofGraph_trans hnext
  rw [circles_condense] at hcircle
  obtain ⟨first, -, rfl⟩ := List.mem_map.1 hcircle
  have hfirst := (mem_circleAround.1 hi).2
  rw [mem_circleAround]
  constructor
  · rintro ⟨-, h⟩
    exact Reach.sameCycle_trans htrans (Reach.sameCycle_symm hfirst) h
  · intro h
    exact ⟨hj, Reach.sameCycle_trans htrans hfirst h⟩

/-- The index of the circle of a node. -/
theorem findIdx_condense_eq_iff {a i : Nat} (hi : i < size) :
    ((condense next size).circles.findIdx fun circle => circle.contains i) = a ↔
      i ∈ (condense next size).circle a := by
  have hperm := perm_flatten_condense hnext
  obtain ⟨circle, hcircle, hmem⟩ := List.mem_flatten.1 (hperm.symm.subset (List.mem_range.2 hi))
  have hlt : ((condense next size).circles.findIdx fun circle => circle.contains i) <
      (condense next size).circles.length :=
    List.findIdx_lt_length_of_exists ⟨circle, hcircle, by simpa using hmem⟩
  have hfound := List.findIdx_getElem (w := hlt)
  rw [List.contains_iff_mem] at hfound
  have hplace := Condensed.mem_circle_iff.2 ⟨_, List.getElem?_eq_getElem hlt, hfound⟩
  constructor
  · rintro rfl
    exact hplace
  · exact Condensed.eq_of_mem_circle (hperm.nodup_iff.2 List.nodup_range) hplace

theorem mem_edges_condense_iff (a b : Nat) :
    (a, b) ∈ (condense next size).edges ↔
      a ≠ b ∧ ∃ i ∈ (condense next size).circle a, ∃ j ∈ (condense next size).circle b,
        Follows next i j := by
  have hedges : (a, b) ∈ (condense next size).edges ↔
      (∃ i < size, ∃ j ∈ next i,
        ((condense next size).circles.findIdx fun circle => circle.contains i) = a ∧
        ((condense next size).circles.findIdx fun circle => circle.contains j) = b) ∧ a ≠ b := by
    unfold condense
    rw [List.mem_eraseDups, List.mem_filter, List.mem_flatMap]
    simp only [List.mem_map, List.mem_range, Prod.mk.injEq, bne_iff_ne]
  rw [hedges, and_comm]
  refine and_congr_right fun _ => ⟨?_, ?_⟩
  · rintro ⟨i, hi, j, hij, ha, hb⟩
    exact ⟨i, (findIdx_condense_eq_iff hnext hi).1 ha, j,
      (findIdx_condense_eq_iff hnext (hnext i j hij)).1 hb, hij⟩
  · rintro ⟨i, hi, j, hj, hij⟩
    have hsize : i < size :=
      List.mem_range.1
        ((perm_flatten_condense hnext).subset (Condensed.mem_flatten_of_mem_circle hi))
    exact ⟨i, hsize, j, hij, (findIdx_condense_eq_iff hnext hsize).2 hi,
      (findIdx_condense_eq_iff hnext (hnext i j hij)).2 hj⟩

end Condense

/-- The circles that are found are those that are expected. -/
theorem condenses_condense : Condenses condense := by
  intro next size hnext
  refine ⟨perm_flatten_condense hnext, ?_, ?_, mem_edges_condense_iff hnext⟩
  · intro circle hcircle
    rw [circles_condense] at hcircle
    obtain ⟨i, hi, rfl⟩ := List.mem_map.1 hcircle
    exact List.ne_nil_of_mem
      (mem_circleAround.2 ⟨(mem_firstNodes.1 hi).1, Reach.sameCycle_self _ i⟩)
  · intro circle hcircle i hi j hj
    have hsize : i < size := List.mem_range.1
      ((perm_flatten_condense hnext).subset (List.mem_flatten_of_mem hcircle hi))
    rw [mem_circle_condense_iff hnext hcircle hi hj, Reach.sameCycle_iff,
      Reach.reaches_ofGraph_iff hnext, Reach.reaches_ofGraph_iff hnext]
    simp only [hsize, hj, true_and]

end TypedClient.Plan
