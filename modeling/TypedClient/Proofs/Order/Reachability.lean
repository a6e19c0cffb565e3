import Mathlib.Data.Finset.Card
import Mathlib.Logic.Relation
import TypedClient.Plan.Order

/-!
# What is reached in a graph

`reachable next size i` searches in rounds. It finds nothing but nodes on a path from `i`, and since
every round but the last takes a node from those that are not found yet, `size` rounds are enough to
find all of them. The main statement, `mem_reachable_iff`, identifies the search with the transitive
closure of `Follows`; `Reach.reaches_ofGraph_iff` reads it in the table that the order of models
works with.
-/

namespace TypedClient.Plan

open Relation (TransGen)

/-- The second node is a successor of the first. -/
def Follows (next : Nat → List Nat) (i j : Nat) : Prop := j ∈ next i

/-- The nodes of a graph that are not found yet. -/
def missing (size : Nat) (found : List Nat) : Finset Nat := Finset.range size \ found.toFinset

section Rounds

variable {next : Nat → List Nat}

/-- What a round adds: successors of the latest nodes that were not found before. -/
theorem mem_round_iff (found latest : List Nat) (j : Nat) :
    j ∈ ((latest.flatMap next).filter fun k => !found.contains k).eraseDups ↔
      (∃ i ∈ latest, j ∈ next i) ∧ j ∉ found := by
  rw [List.mem_eraseDups, List.mem_filter, List.mem_flatMap]
  simp

/-- A property that passes on to successors holds of all that is found, if it holds at the
start. -/
theorem forall_mem_grow {p : Nat → Prop} (hp : ∀ i j, p i → j ∈ next i → p j) (rounds : Nat)
    (found latest : List Nat) (hfound : ∀ j ∈ found, p j) (hlatest : ∀ j ∈ latest, p j) :
    ∀ j ∈ grow next rounds found latest, p j := by
  induction rounds generalizing found latest with
  | zero => exact hfound
  | succ rounds ih =>
      have hround : ∀ j ∈ ((latest.flatMap next).filter fun k => !found.contains k).eraseDups,
          p j := by
        intro j hj
        obtain ⟨⟨i, hi, hij⟩, -⟩ := (mem_round_iff found latest j).1 hj
        exact hp i j (hlatest i hi) hij
      rw [grow]
      split
      · exact hfound
      · refine ih _ _ ?_ hround
        intro j hj
        rcases List.mem_append.1 hj with h | h
        · exact hfound j h
        · exact hround j h

/-- What is found stays found. -/
theorem subset_grow (rounds : Nat) (found latest : List Nat) :
    found ⊆ grow next rounds found latest := by
  induction rounds generalizing found latest with
  | zero => exact List.Subset.refl found
  | succ rounds ih =>
      rw [grow]
      split
      · exact List.Subset.refl found
      · exact List.Subset.trans (List.subset_append_left _ _) (ih _ _)

/-- A new node leaves fewer nodes to be found. -/
theorem card_missing_append_lt {size j : Nat} {found new : List Nat} (hj : j ∈ new)
    (hsize : j < size) (hfound : j ∉ found) :
    (missing size (found ++ new)).card < (missing size found).card := by
  apply Finset.card_lt_card
  refine (Finset.ssubset_iff_of_subset ?_).2 ⟨j, ?_, ?_⟩
  · apply Finset.sdiff_subset_sdiff (Finset.Subset.refl _)
    rw [List.toFinset_append]
    exact Finset.subset_union_left
  · simp [missing, hsize, hfound]
  · simp [missing, hj]

/-- With as many rounds as there are nodes to be found, the successors of all that is found are
found as well. The latest nodes are the only ones whose successors have not been looked at. -/
theorem grow_closed {size : Nat} (hnext : ∀ i, ∀ j ∈ next i, j < size) (rounds : Nat)
    (found latest : List Nat) (hlatest : latest ⊆ found)
    (hdone : ∀ i ∈ found, i ∉ latest → next i ⊆ found)
    (hrounds : (missing size found).card ≤ rounds) :
    ∀ i ∈ grow next rounds found latest, next i ⊆ grow next rounds found latest := by
  induction rounds generalizing found latest with
  | zero =>
      intro i _ j hj
      rw [grow]
      have hempty : missing size found = ∅ := Finset.card_eq_zero.1 (Nat.le_zero.1 hrounds)
      by_contra hnot
      have hmem : j ∈ missing size found := by
        simpa [missing, hnext i j hj] using hnot
      rw [hempty] at hmem
      exact absurd hmem (Finset.notMem_empty j)
  | succ rounds ih =>
      rw [grow]
      split
      · next hnil =>
          -- Nothing new: the latest nodes have no successors outside `found` either.
          intro i hi j hj
          by_cases hl : i ∈ latest
          · by_contra hnot
            have hround := (mem_round_iff found latest j).2 ⟨⟨i, hl, hj⟩, hnot⟩
            rw [hnil] at hround
            exact absurd hround List.not_mem_nil
          · exact hdone i hi hl hj
      · next new hne =>
          refine ih _ _ (List.subset_append_right _ _) ?_ ?_
          · intro i hi hnew j hj
            have hfound : i ∈ found := (List.mem_append.1 hi).resolve_right hnew
            rw [List.mem_append]
            by_cases hl : i ∈ latest
            · by_cases hj' : j ∈ found
              · exact Or.inl hj'
              · exact Or.inr ((mem_round_iff found latest j).2 ⟨⟨i, hl, hj⟩, hj'⟩)
            · exact Or.inl (hdone i hfound hl hj)
          · obtain ⟨j, hj⟩ := List.exists_mem_of_ne_nil _ hne
            obtain ⟨⟨i, -, hij⟩, hj'⟩ := (mem_round_iff found latest j).1 hj
            have hlt := card_missing_append_lt hj (hnext i j hij) hj'
            omega

end Rounds

/-- What is reached from a node is what a path leads to. -/
theorem mem_reachable_iff {next : Nat → List Nat} {size : Nat}
    (hnext : ∀ i, ∀ j ∈ next i, j < size) (i j : Nat) :
    j ∈ reachable next size i ↔ TransGen (Follows next) i j := by
  have hstart : ∀ k ∈ (next i).eraseDups, Follows next i k :=
    fun k hk => List.mem_eraseDups.1 hk
  constructor
  · intro hj
    have hsingle : ∀ k ∈ (next i).eraseDups, TransGen (Follows next) i k :=
      fun k hk => TransGen.single (hstart k hk)
    exact forall_mem_grow (fun _ _ hk hkl => TransGen.tail hk hkl) size _ _ hsingle hsingle j hj
  · intro hpath
    have hcard : (missing size (next i).eraseDups).card ≤ size := by
      calc (missing size (next i).eraseDups).card
          ≤ (Finset.range size).card := Finset.card_le_card Finset.sdiff_subset
        _ = size := Finset.card_range size
    have hclosed := grow_closed hnext size (next i).eraseDups (next i).eraseDups
      (List.Subset.refl _) (fun k hk hnot => absurd hk hnot) hcard
    induction hpath with
    | single h => exact subset_grow size _ _ (List.mem_eraseDups.2 h)
    | tail _ h ih => exact hclosed _ ih h

namespace Reach

/-- The table of a graph holds the paths between its nodes. -/
theorem reaches_ofGraph_iff {next : Nat → List Nat} {size : Nat}
    (hnext : ∀ i, ∀ j ∈ next i, j < size) (i j : Nat) :
    (ofGraph next size).reaches i j = true ↔ i < size ∧ TransGen (Follows next) i j := by
  unfold reaches ofGraph
  by_cases hi : i < size
  · simp [hi, mem_reachable_iff hnext]
  · simp [hi]

/-- In the table of a graph, what is reached from a reached node is reached. -/
theorem reaches_ofGraph_trans {next : Nat → List Nat} {size : Nat}
    (hnext : ∀ i, ∀ j ∈ next i, j < size) (i j k : Nat)
    (hij : (ofGraph next size).reaches i j = true) (hjk : (ofGraph next size).reaches j k = true) :
    (ofGraph next size).reaches i k = true := by
  rw [reaches_ofGraph_iff hnext] at hij hjk ⊢
  exact ⟨hij.1, hij.2.trans hjk.2⟩

end Reach

end TypedClient.Plan
