import Mathlib.Data.List.Basic
import TypedClient.Plan.Order

/-!
# The order in which nodes are emitted

`Reach.emit` puts one circle after another, always the first one that waits for no pending node. It
says which order is meant, without counters and without a queue; the loop that counts edges is shown
to give this order where the two are compared.

Nothing here depends on how the table of what is reached was made; the statements only ask that what
is reached from a reached node is reached. Then being in one circle is an equivalence, some circle
is always ready, and the emitted list is a rearrangement of the pending nodes (`emit_perm`), made up
of whole circles in their first order (`emit_eq_flatten`), in which a node reaches no later one
outside its circle (`emit_pairwise`).
-/

namespace TypedClient.Plan

namespace Reach

/-! ## The order that is meant -/

/-- Whether all that a node reaches outside its circle has been emitted. -/
def isReady (r : Reach) (pending : List Nat) (i : Nat) : Bool :=
  pending.all fun j => r.sameCycle i j || !r.reaches i j

/-- The pending nodes of a node's circle. -/
def inside (r : Reach) (i : Nat) (pending : List Nat) : List Nat := pending.filter (r.sameCycle i)

/-- The pending nodes outside a node's circle. -/
def outside (r : Reach) (i : Nat) (pending : List Nat) : List Nat :=
  pending.filter fun j => !r.sameCycle i j

/-- A pending node is not outside its own circle. -/
theorem length_outside_lt (r : Reach) {i : Nat} {pending : List Nat} (h : i ∈ pending) :
    (r.outside i pending).length < pending.length := by
  unfold outside
  rw [List.length_filter_lt_length_iff_exists]
  exact ⟨i, h, by simp [sameCycle_self]⟩

/-- The order in which pending nodes are emitted: always the first circle that is ready. -/
def emit (r : Reach) (pending : List Nat) : List Nat :=
  match _h : pending.find? (r.isReady pending) with
  | none => pending
  | some i => r.inside i pending ++ r.emit (r.outside i pending)
termination_by pending.length
decreasing_by exact r.length_outside_lt (List.mem_of_find?_eq_some _h)

variable {r : Reach}

/-! ## Circles -/

theorem sameCycle_iff (i j : Nat) :
    r.sameCycle i j = true ↔ i = j ∨ r.reaches i j = true ∧ r.reaches j i = true := by
  simp [sameCycle]

theorem sameCycle_symm {i j : Nat} (h : r.sameCycle i j = true) : r.sameCycle j i = true := by
  rw [sameCycle_iff] at h ⊢
  rcases h with rfl | ⟨hij, hji⟩
  · exact Or.inl rfl
  · exact Or.inr ⟨hji, hij⟩

section Transitive

variable (htrans : ∀ i j k, r.reaches i j = true → r.reaches j k = true → r.reaches i k = true)

include htrans

theorem sameCycle_trans {i j k : Nat} (hij : r.sameCycle i j = true)
    (hjk : r.sameCycle j k = true) : r.sameCycle i k = true := by
  rw [sameCycle_iff] at hij hjk ⊢
  rcases hij with rfl | ⟨hij, hji⟩
  · exact hjk
  · rcases hjk with rfl | ⟨hjk, hkj⟩
    · exact Or.inr ⟨hij, hji⟩
    · exact Or.inr ⟨htrans i j k hij hjk, htrans k j i hkj hji⟩

/-- A node of the same circle reaches the same nodes outside. -/
theorem reaches_of_sameCycle {i j k : Nat} (hij : r.sameCycle i j = true)
    (hjk : r.reaches j k = true) : r.reaches i k = true := by
  rcases (sameCycle_iff i j).1 hij with rfl | ⟨hij, -⟩
  · exact hjk
  · exact htrans i j k hij hjk

/-! ## Ready nodes -/

/-- Among pending nodes there is one that reaches none that does not reach it back. -/
theorem exists_isReady {pending : List Nat} (hne : pending ≠ []) :
    ∃ i ∈ pending, r.isReady pending i = true := by
  suffices h : ∃ i ∈ pending, ∀ j ∈ pending, r.reaches i j = true → r.reaches j i = true by
    obtain ⟨i, hi, hback⟩ := h
    refine ⟨i, hi, ?_⟩
    rw [isReady, List.all_eq_true]
    intro j hj
    by_cases hij : r.reaches i j = true
    · simp [sameCycle, hij, hback j hj hij]
    · simp [hij]
  induction pending with
  | nil => exact absurd rfl hne
  | cons a pending ih =>
      by_cases hnil : pending = []
      · subst hnil
        refine ⟨a, List.mem_singleton_self a, fun j hj hreach => ?_⟩
        rw [List.mem_singleton.1 hj] at hreach ⊢
        exact hreach
      · obtain ⟨i, hi, hback⟩ := ih hnil
        by_cases hia : r.reaches i a = true ∧ r.reaches a i = false
        · -- `i` is bound to wait for `a`, and `a` reaches nothing that `i` does not reach.
          refine ⟨a, List.mem_cons_self, fun j hj haj => ?_⟩
          rcases List.mem_cons.1 hj with rfl | hj
          · exact haj
          · have hij := htrans i a j hia.1 haj
            exact htrans j i a (hback j hj hij) hia.1
        · refine ⟨i, List.mem_cons_of_mem a hi, fun j hj hij => ?_⟩
          rcases List.mem_cons.1 hj with rfl | hj
          · by_contra hji
            exact hia ⟨hij, by simpa using hji⟩
          · exact hback j hj hij

/-- There is a first ready node as long as nodes are pending. -/
theorem eq_nil_of_find?_eq_none {pending : List Nat}
    (h : pending.find? (r.isReady pending) = none) : pending = [] := by
  by_contra hne
  obtain ⟨i, hi, hready⟩ := exists_isReady htrans hne
  exact List.find?_eq_none.1 h i hi hready

end Transitive

theorem mem_inside (i j : Nat) (pending : List Nat) :
    j ∈ r.inside i pending ↔ j ∈ pending ∧ r.sameCycle i j = true := by
  rw [inside, List.mem_filter]

theorem mem_outside (i j : Nat) (pending : List Nat) :
    j ∈ r.outside i pending ↔ j ∈ pending ∧ r.sameCycle i j = false := by
  rw [outside, List.mem_filter]
  simp

/-- A ready node reaches no pending node outside its circle. -/
theorem not_reaches_of_isReady {i j : Nat} {pending : List Nat}
    (hready : r.isReady pending i = true) (hj : j ∈ r.outside i pending) :
    r.reaches i j = false := by
  obtain ⟨hmem, hcycle⟩ := (mem_outside i j pending).1 hj
  rw [isReady, List.all_eq_true] at hready
  simpa [hcycle] using hready j hmem

/-! ## Emission -/

theorem emit_of_find?_eq_none {pending : List Nat} (h : pending.find? (r.isReady pending) = none) :
    r.emit pending = pending := by
  rw [emit]
  split
  · rfl
  · next i hi =>
      rw [h] at hi
      cases hi

theorem emit_of_find?_eq_some {i : Nat} {pending : List Nat}
    (h : pending.find? (r.isReady pending) = some i) :
    r.emit pending = r.inside i pending ++ r.emit (r.outside i pending) := by
  rw [emit]
  split
  · next hnone =>
      rw [h] at hnone
      cases hnone
  · next j hj =>
      rw [h] at hj
      cases hj
      rfl

/-- Every pending node is emitted, and nothing else. -/
theorem emit_perm (r : Reach) (pending : List Nat) : (r.emit pending).Perm pending := by
  fun_induction emit r pending with
  | case1 pending hnone => exact List.Perm.refl pending
  | case2 pending i hfind ih =>
      have hparts : (r.inside i pending ++ r.outside i pending).Perm pending :=
        List.filter_append_perm (r.sameCycle i) pending
      exact (ih.append_left _).trans hparts

section Transitive

variable (htrans : ∀ i j k, r.reaches i j = true → r.reaches j k = true → r.reaches i k = true)

include htrans

/-- A circle that is not emitted yet is pending as a whole. -/
theorem inside_outside {i j : Nat} {pending : List Nat} (hj : j ∈ r.outside i pending) :
    r.inside j (r.outside i pending) = r.inside j pending := by
  unfold inside outside
  rw [List.filter_filter]
  apply List.filter_congr
  intro k _
  by_cases hjk : r.sameCycle j k = true
  · have hik : r.sameCycle i k = false := by
      by_contra hik
      have hij := sameCycle_trans htrans (by simpa using hik) (sameCycle_symm hjk)
      rw [((mem_outside i j pending).1 hj).2] at hij
      exact absurd hij (by decide)
    simp [hjk, hik]
  · simp [hjk]

/-- What is emitted are whole circles, one after another, each in its first order. -/
theorem emit_eq_flatten (pending : List Nat) :
    ∃ firsts, firsts ⊆ pending ∧
      r.emit pending = (firsts.map fun i => r.inside i pending).flatten := by
  fun_induction emit r pending with
  | case1 pending hnone =>
      have hnil := eq_nil_of_find?_eq_none htrans hnone
      exact ⟨[], List.nil_subset _, by simp [hnil]⟩
  | case2 pending i hfind ih =>
      obtain ⟨firsts, hsub, heq⟩ := ih
      have hmem : ∀ j ∈ firsts, j ∈ pending :=
        fun j hj => ((mem_outside i j pending).1 (hsub hj)).1
      refine ⟨i :: firsts, ?_, ?_⟩
      · exact List.cons_subset.2 ⟨List.mem_of_find?_eq_some hfind, hmem⟩
      · have hinside : firsts.map (fun j => r.inside j (r.outside i pending)) =
            firsts.map fun j => r.inside j pending :=
          List.map_congr_left fun j hj => inside_outside htrans (hsub hj)
        rw [heq, hinside, List.map_cons, List.flatten_cons]

/-- A node reaches later ones only within its circle. -/
theorem emit_pairwise (pending : List Nat) :
    (r.emit pending).Pairwise fun i j => r.reaches i j = true → r.sameCycle i j = true := by
  fun_induction emit r pending with
  | case1 pending hnone =>
      rw [eq_nil_of_find?_eq_none htrans hnone]
      exact List.Pairwise.nil
  | case2 pending i hfind ih =>
      rw [List.pairwise_append]
      refine ⟨?_, ih, ?_⟩
      · rw [List.pairwise_iff_forall_sublist]
        intro a b hab _
        have ha := (mem_inside i a pending).1 (hab.subset List.mem_cons_self)
        have hb := (mem_inside i b pending).1 (hab.subset (by simp))
        exact sameCycle_trans htrans (sameCycle_symm ha.2) hb.2
      · intro a ha b hb hreach
        have ha := (mem_inside i a pending).1 ha
        have hb : b ∈ r.outside i pending := (emit_perm r _).subset hb
        have hib := reaches_of_sameCycle htrans ha.2 hreach
        rw [not_reaches_of_isReady (List.find?_some hfind) hb] at hib
        exact absurd hib (by decide)

end Transitive

end Reach

end TypedClient.Plan
