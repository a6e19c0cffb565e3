import Mathlib.Data.Finset.Basic
import Mathlib.Data.List.Sort
import TypedClient.Proofs.Order.Condensation

/-!
# Emission by counting edges

`Condensed.run` keeps for each circle the number of its edges that lead to circles that are not
emitted yet, and a queue of the circles for which this number is zero. `Emitting` is what holds
between two steps, with the circles that are left and the edges that are still to be counted down.
One edge keeps it (`Emitting.countDown`), taking a circle from the queue keeps it (`Emitting.pop`),
and it holds at the start (`emitting_start`). While it holds no counter is counted below zero, the
first entry of the queue is the first node that is ready, and an empty queue means that nothing is
pending. So the loop ends with the order that is meant, whatever order and numbers the circles have
(`run_start_eq`), and each slot is taken once (`takeSlots_eq`).
-/

namespace TypedClient.Plan

open Relation (TransGen)

/-! ## The order of the queue -/

theorem takenBefore_iff {x y : Nat × Nat} :
    takenBefore x y = true ↔ x.1 < y.1 ∨ x.1 = y.1 ∧ x.2 ≤ y.2 := by
  simp [takenBefore]

theorem takenBefore_trans (x y z : Nat × Nat) (hxy : takenBefore x y = true)
    (hyz : takenBefore y z = true) : takenBefore x z = true := by
  rw [takenBefore_iff] at *
  omega

theorem takenBefore_of_not (x y : Nat × Nat) (h : ¬ takenBefore x y = true) :
    takenBefore y x = true := by
  rw [takenBefore_iff] at *
  omega

/-! ## Ordered lists -/

section Ordered

variable {α : Type} {before : α → α → Bool}

theorem insertBy_perm (x : α) (xs : List α) : (insertBy before x xs).Perm (x :: xs) := by
  induction xs with
  | nil => exact List.Perm.refl _
  | cons y ys ih =>
      rw [insertBy]
      split
      · exact List.Perm.refl _
      · exact (ih.cons y).trans (List.Perm.swap x y ys)

theorem sortBy_perm (xs : List α) : (sortBy before xs).Perm xs := by
  induction xs with
  | nil => exact List.Perm.refl _
  | cons x xs ih => exact (insertBy_perm x _).trans (ih.cons x)

variable (htrans : ∀ x y z, before x y = true → before y z = true → before x z = true)
  (htotal : ∀ x y, ¬ before x y = true → before y x = true)

include htrans htotal

/-- What is put into an ordered list leaves it ordered. -/
theorem pairwise_insertBy (x : α) {xs : List α} (h : xs.Pairwise fun y z => before y z = true) :
    (insertBy before x xs).Pairwise fun y z => before y z = true := by
  induction xs with
  | nil => exact List.pairwise_singleton _ x
  | cons y ys ih =>
      obtain ⟨hfirst, hrest⟩ := List.pairwise_cons.1 h
      rw [insertBy]
      split
      · next hbefore =>
          refine List.pairwise_cons.2 ⟨fun z hz => ?_, h⟩
          rcases List.mem_cons.1 hz with rfl | hz
          · exact hbefore
          · exact htrans x y z hbefore (hfirst z hz)
      · next hbefore =>
          refine List.pairwise_cons.2 ⟨fun z hz => ?_, ih hrest⟩
          rcases List.mem_cons.1 ((insertBy_perm x ys).subset hz) with rfl | hz
          · exact htotal _ _ hbefore
          · exact hfirst z hz

theorem pairwise_sortBy (xs : List α) :
    (sortBy before xs).Pairwise fun y z => before y z = true := by
  induction xs with
  | nil => exact List.Pairwise.nil
  | cons x xs ih => exact pairwise_insertBy htrans htotal x ih

end Ordered

/-! ## First positions -/

theorem firstPosition_mem {members : List Nat} (h : members ≠ []) :
    firstPosition members ∈ members := by
  unfold firstPosition
  cases hmin : members.min? with
  | none => exact absurd (List.min?_eq_none_iff.1 hmin) h
  | some first => exact List.min?_mem hmin

theorem firstPosition_le {members : List Nat} {i : Nat} (hi : i ∈ members) :
    firstPosition members ≤ i := by
  unfold firstPosition
  cases hmin : members.min? with
  | none =>
      rw [List.min?_eq_none_iff.1 hmin] at hi
      cases hi
  | some first => exact (List.le_min?_iff hmin).1 (Nat.le_refl first) i hi

/-- What is found first in an ascending list is the least. -/
theorem find?_eq_some_of_least {xs : List Nat} {p : Nat → Bool} {i : Nat}
    (hxs : xs.Pairwise (· < ·)) (hi : i ∈ xs) (hp : p i = true)
    (hleast : ∀ j ∈ xs, p j = true → i ≤ j) : xs.find? p = some i := by
  obtain ⟨j, hj⟩ := Option.isSome_iff_exists.1 (List.find?_isSome.2 ⟨i, hi, hp⟩)
  obtain ⟨hpj, before, after, rfl, hbefore⟩ := List.find?_eq_some_iff_append.1 hj
  have hij := hleast j (List.mem_of_find?_eq_some hj) hpj
  rw [hj]
  rcases List.mem_append.1 hi with hmem | hmem
  · exact absurd hp (by simpa using hbefore i hmem)
  · rcases List.mem_cons.1 hmem with rfl | hmem
    · rfl
    · have hlt := (List.pairwise_cons.1 (List.pairwise_append.1 hxs).2.1).1 i hmem
      omega

/-! ## What is left -/

namespace Condensed

/-- The number of edges from a circle to circles that are left. -/
def waits (c : Condensed) (left : Finset Nat) (a : Nat) : Nat :=
  c.edges.countP fun edge => edge.1 == a && decide (edge.2 ∈ left)

/-- The nodes of the circles that are left. -/
def pending (c : Condensed) (size : Nat) (left : Finset Nat) : List Nat :=
  (List.range size).filter fun i => decide (∃ a ∈ left, i ∈ c.circle a)

variable {c : Condensed} {size : Nat} {left : Finset Nat}

theorem mem_pending {i : Nat} :
    i ∈ c.pending size left ↔ i < size ∧ ∃ a ∈ left, i ∈ c.circle a := by
  rw [pending, List.mem_filter, List.mem_range, decide_eq_true_iff]

theorem mem_dependents {a b : Nat} : b ∈ c.dependents a ↔ (b, a) ∈ c.edges := by
  simp [dependents]

theorem waits_eq_zero_iff {a : Nat} : c.waits left a = 0 ↔ ∀ b ∈ left, (a, b) ∉ c.edges := by
  unfold waits
  rw [List.countP_eq_zero]
  constructor
  · intro h b hb hedge
    have hnot := h (a, b) hedge
    simp [hb] at hnot
  · rintro h ⟨a', b⟩ hedge htrue
    simp only [Bool.and_eq_true, beq_iff_eq, decide_eq_true_iff] at htrue
    obtain ⟨rfl, hb⟩ := htrue
    exact h b hb hedge

/-- When a circle is taken, its dependents wait for one edge less, once for every such edge. -/
theorem waits_erase {a : Nat} (ha : a ∈ left) (b : Nat) :
    c.waits left b = c.waits (left.erase a) b + (c.dependents a).count b := by
  unfold waits dependents
  induction c.edges with
  | nil => rfl
  | cons edge edges ih =>
      obtain ⟨source, target⟩ := edge
      rw [List.countP_cons, List.countP_cons, ih]
      by_cases hta : target = a
      · subst hta
        rw [List.filter_cons_of_pos (by simp), List.map_cons, List.count_cons]
        by_cases hsb : source = b
        · simp [hsb, ha]
          omega
        · simp [hsb, ha]
      · rw [List.filter_cons_of_neg (by simpa using hta)]
        simp [hta]
        omega

/-! ## The invariant -/

/-- What holds between two steps: `left` are the circles that are left, and `counted` are the
circles for which one more edge is to be counted down. -/
structure Emitting (c : Condensed) (left : Finset Nat) (counted : List Nat) (w : Waiting) :
    Prop where
  counters_eq : ∀ a < c.circles.length,
    w.counters[a]? = some (c.waits left a + counted.count a)
  sorted : w.queue.Pairwise fun x y => takenBefore x y = true
  nodup : w.queue.Nodup
  /-- The queue holds the circles that are left and wait for no edge. -/
  mem_queue_iff : ∀ entry, entry ∈ w.queue ↔
    entry.2 ∈ left ∧ w.counters[entry.2]? = some 0 ∧ entry = c.entry entry.2

/-- The circles that are left are circles, and hold whoever waits for them. -/
structure Remaining (c : Condensed) (left : Finset Nat) : Prop where
  lt_length : ∀ a ∈ left, a < c.circles.length
  mem_of_edge : ∀ a b, (a, b) ∈ c.edges → b ∈ left → a ∈ left

variable {w : Waiting}

/-- A circle whose edge is counted down has one left to be counted, and the invariant is kept. -/
theorem Emitting.countDown {a : Nat} {counted : List Nat} (h : Emitting c left (a :: counted) w)
    (hremaining : Remaining c left) (ha : a ∈ left) :
    ∃ w', c.countDown w a = some w' ∧ Emitting c left counted w' := by
  have hlength := hremaining.lt_length a ha
  have hcounter : w.counters[a]? = some (c.waits left a + counted.count a + 1) := by
    rw [h.counters_eq a hlength, List.count_cons_self, Nat.add_assoc]
  have hbound : a < w.counters.length := (List.getElem?_eq_some_iff.1 hcounter).1
  have hqueue : c.entry a ∉ w.queue := by
    intro hmem
    have hzero := ((h.mem_queue_iff _).1 hmem).2.1
    rw [show (c.entry a).2 = a from rfl, hcounter] at hzero
    simp at hzero
  refine ⟨_, by rw [Condensed.countDown, hcounter], ?_, ?_, ?_, ?_⟩
  · intro b hb
    dsimp only
    by_cases hab : a = b
    · subst hab
      rw [List.getElem?_set_self hbound]
    · rw [List.getElem?_set_ne hab, h.counters_eq b hb, List.count_cons_of_ne hab]
  · dsimp only
    split
    · exact pairwise_insertBy takenBefore_trans takenBefore_of_not _ h.sorted
    · exact h.sorted
  · dsimp only
    split
    · exact (insertBy_perm _ _).nodup_iff.2 (List.nodup_cons.2 ⟨hqueue, h.nodup⟩)
    · exact h.nodup
  · rintro ⟨k, b⟩
    have hmem : (k, b) ∈ w.queue ↔ b ∈ left ∧ w.counters[b]? = some 0 ∧ (k, b) = c.entry b :=
      h.mem_queue_iff (k, b)
    dsimp only
    by_cases hab : a = b
    · subst hab
      rw [List.getElem?_set_self hbound]
      have hnot : (k, a) ∉ w.queue := by
        intro hk
        have heq := (hmem.1 hk).2.2
        rw [heq] at hk
        exact hqueue hk
      split
      · next hzero =>
          rw [(insertBy_perm _ _).mem_iff, List.mem_cons, or_iff_left hnot, hzero]
          exact ⟨fun heq => ⟨ha, rfl, heq⟩, fun hk => hk.2.2⟩
      · next hpos =>
          refine ⟨fun hk => absurd hk hnot, fun hk => absurd (Option.some.inj hk.2.1) hpos⟩
    · rw [List.getElem?_set_ne hab, ← hmem]
      split
      · rw [(insertBy_perm _ _).mem_iff, List.mem_cons, or_iff_right]
        intro heq
        exact hab (congrArg Prod.snd heq).symm
      · rfl

/-- All edges into a circle are counted down. -/
theorem Emitting.foldlM_countDown {counted : List Nat} (h : Emitting c left counted w)
    (hremaining : Remaining c left) (hcounted : ∀ a ∈ counted, a ∈ left) :
    ∃ w', counted.foldlM c.countDown w = some w' ∧ Emitting c left [] w' := by
  induction counted generalizing w with
  | nil => exact ⟨w, rfl, h⟩
  | cons a counted ih =>
      obtain ⟨w', hw', hnext⟩ := h.countDown hremaining (hcounted a List.mem_cons_self)
      obtain ⟨w'', hw'', hdone⟩ := ih hnext fun b hb => hcounted b (List.mem_cons_of_mem a hb)
      exact ⟨w'', by rw [List.foldlM_cons, hw']; exact hw'', hdone⟩

/-- Taking a circle from the queue leaves the edges into it to be counted down. -/
theorem Emitting.pop {k a : Nat} {rest : List (Nat × Nat)} (h : Emitting c left [] w)
    (hqueue : w.queue = (k, a) :: rest) :
    Emitting c (left.erase a) (c.dependents a) { w with queue := rest } := by
  have hsorted := h.sorted
  have hnodup := h.nodup
  rw [hqueue] at hsorted hnodup
  have hmem : ∀ entry, entry ∈ (k, a) :: rest ↔
      entry.2 ∈ left ∧ w.counters[entry.2]? = some 0 ∧ entry = c.entry entry.2 := by
    rw [← hqueue]
    exact h.mem_queue_iff
  obtain ⟨ha, -, hentry⟩ := (hmem (k, a)).1 List.mem_cons_self
  refine ⟨?_, hsorted.of_cons, hnodup.of_cons, ?_⟩
  · intro b hb
    rw [h.counters_eq b hb, List.count_nil, Nat.add_zero, waits_erase ha]
  · intro entry
    have hrest : entry ∈ rest ↔ entry ∈ (k, a) :: rest ∧ entry.2 ≠ a := by
      constructor
      · intro hin
        refine ⟨List.mem_cons_of_mem _ hin, ?_⟩
        rintro rfl
        have heq : entry = (k, entry.2) := by
          rw [hentry]
          exact ((hmem entry).1 (List.mem_cons_of_mem _ hin)).2.2
        exact (List.nodup_cons.1 hnodup).1 (heq ▸ hin)
      · rintro ⟨hin, hne⟩
        refine (List.mem_cons.1 hin).resolve_left ?_
        rintro rfl
        exact hne rfl
    rw [hrest, hmem, Finset.mem_erase]
    constructor
    · rintro ⟨⟨hleft, hzero, heq⟩, hne⟩
      exact ⟨⟨hne, hleft⟩, hzero, heq⟩
    · rintro ⟨⟨hne, hleft⟩, hzero, heq⟩
      exact ⟨⟨hleft, hzero, heq⟩, hne⟩

/-- At the start all circles are left, and none is to be counted down. -/
theorem emitting_start (hedges : ∀ a b, (a, b) ∈ c.edges → b < c.circles.length) :
    Emitting c (Finset.range c.circles.length) [] c.start := by
  have hwaits : ∀ a, c.waits (Finset.range c.circles.length) a = c.outgoing a := by
    intro a
    refine List.countP_congr ?_
    rintro ⟨source, target⟩ hedge
    simp [hedges source target hedge]
  have hcounters : ∀ a < c.circles.length, c.start.counters[a]? = some (c.outgoing a) := by
    intro a ha
    simp [start, ha]
  have hqueue : c.start.queue.Perm
      (((List.range c.circles.length).filter fun a => c.outgoing a == 0).map c.entry) :=
    sortBy_perm _
  refine ⟨?_, pairwise_sortBy takenBefore_trans takenBefore_of_not _, ?_, ?_⟩
  · intro a ha
    rw [hcounters a ha, hwaits, List.count_nil, Nat.add_zero]
  · refine hqueue.nodup_iff.2 (List.Nodup.map ?_ (List.nodup_range.filter _))
    exact fun a b hab => congrArg Prod.snd hab
  · intro entry
    rw [hqueue.mem_iff, List.mem_map, Finset.mem_range]
    constructor
    · rintro ⟨a, ha, rfl⟩
      rw [List.mem_filter, List.mem_range, beq_iff_eq] at ha
      refine ⟨ha.1, ?_, rfl⟩
      rw [← ha.2]
      exact hcounters a ha.1
    · rintro ⟨hlt, hzero, heq⟩
      refine ⟨entry.2, ?_, heq.symm⟩
      rw [List.mem_filter, List.mem_range, beq_iff_eq]
      exact ⟨hlt, Option.some.inj ((hcounters entry.2 hlt).symm.trans hzero)⟩

/-- Once a circle that waits for nothing is taken, whoever waits for what is left is left. -/
theorem Remaining.erase {a : Nat} (hremaining : Remaining c left) (hwaits : c.waits left a = 0) :
    Remaining c (left.erase a) where
  lt_length b hb := hremaining.lt_length b (Finset.mem_of_mem_erase hb)
  mem_of_edge b d hedge hd := by
    have hdleft := Finset.mem_of_mem_erase hd
    refine Finset.mem_erase.2 ⟨?_, hremaining.mem_of_edge b d hedge hdleft⟩
    rintro rfl
    exact waits_eq_zero_iff.1 hwaits d hdleft hedge

end Condensed

/-! ## The order that the loop gives -/

open Plan.Condensed (Emitting Remaining)

namespace IsCondensation

variable {next : Nat → List Nat} {size : Nat} {c : Condensed} (h : IsCondensation next size c)
  {left : Finset Nat} (hleft : Remaining c left) (hnext : ∀ i, ∀ j ∈ next i, j < size)

include h

theorem mem_pending_of_mem_circle {a i : Nat} (ha : a ∈ left) (hi : i ∈ c.circle a) :
    i ∈ c.pending size left :=
  Condensed.mem_pending.2 ⟨h.lt_of_mem_circle hi, a, ha, hi⟩

include hnext

/-- The nodes of a circle, in order, are the pending ones that reach each other with one of them. -/
theorem inside_pending {a i : Nat} (ha : a ∈ left) (hi : i ∈ c.circle a) :
    (Reach.ofGraph next size).inside i (c.pending size left) = sortBy (· ≤ ·) (c.circle a) := by
  have hpending : (c.pending size left).Pairwise (· < ·) := List.pairwise_lt_range.filter _
  have hinside : ((Reach.ofGraph next size).inside i (c.pending size left)).Pairwise (· < ·) :=
    hpending.filter _
  have hsorted : (sortBy (· ≤ ·) (c.circle a)).Pairwise fun j k => decide (j ≤ k) = true := by
    refine pairwise_sortBy (fun j k l => ?_) (fun j k => ?_) (c.circle a)
    · simpa using Nat.le_trans
    · simpa using Nat.le_of_lt
  refine List.Perm.eq_of_pairwise (fun _ _ _ _ => Nat.le_antisymm) (hinside.imp Nat.le_of_lt) ?_ ?_
  · exact hsorted.imp of_decide_eq_true
  · refine List.Perm.trans ?_ (sortBy_perm _).symm
    refine (List.perm_ext_iff_of_nodup (hinside.imp Nat.ne_of_lt) (h.nodup_circle a)).2 fun j => ?_
    rw [Reach.mem_inside]
    constructor
    · rintro ⟨hj, hcycle⟩
      exact (h.sameCycle_iff_mem_circle hnext hi (Condensed.mem_pending.1 hj).1).1 hcycle
    · intro hj
      exact ⟨h.mem_pending_of_mem_circle ha hj,
        (h.sameCycle_iff_mem_circle hnext hi (h.lt_of_mem_circle hj)).2 hj⟩

/-- Without the circle of a node there are the pending nodes outside of it. -/
theorem outside_pending {a i : Nat} (hi : i ∈ c.circle a) :
    (Reach.ofGraph next size).outside i (c.pending size left) =
      c.pending size (left.erase a) := by
  unfold Reach.outside Condensed.pending
  rw [List.filter_filter]
  refine List.filter_congr fun j hj => ?_
  have hcycle := h.sameCycle_iff_mem_circle hnext hi (List.mem_range.1 hj)
  rw [Bool.eq_iff_iff]
  simp only [Bool.and_eq_true, Bool.not_eq_true', ← Bool.not_eq_true, hcycle, decide_eq_true_iff,
    Finset.mem_erase]
  constructor
  · rintro ⟨hout, b, hb, hmem⟩
    exact ⟨b, ⟨fun heq => hout (heq ▸ hmem), hb⟩, hmem⟩
  · rintro ⟨b, ⟨hne, hb⟩, hmem⟩
    exact ⟨fun ha => hne (h.eq_of_mem_circle hmem ha), b, hb, hmem⟩

include hleft

/-- A path from a circle that waits for nothing stays in it or leads to what is emitted. -/
theorem eq_or_not_mem_of_transGen {a i j : Nat} (hwaits : c.waits left a = 0)
    (hi : i ∈ c.circle a) (hpath : TransGen (Follows next) i j) :
    ∀ b, j ∈ c.circle b → b = a ∨ b ∉ left := by
  have hstep : ∀ b d j k, (b = a ∨ b ∉ left) → j ∈ c.circle b → k ∈ c.circle d →
      Follows next j k → d = a ∨ d ∉ left := by
    intro b d j k hb hj hk hjk
    by_cases hbd : b = d
    · exact hbd ▸ hb
    · have hedge : (b, d) ∈ c.edges := (h.mem_edges_iff b d).2 ⟨hbd, j, hj, k, hk, hjk⟩
      refine Or.inr fun hd => ?_
      rcases hb with rfl | hb
      · exact Condensed.waits_eq_zero_iff.1 hwaits d hd hedge
      · exact hb (hleft.mem_of_edge b d hedge hd)
  induction hpath with
  | single hij => exact fun b hb => hstep a b i _ (Or.inl rfl) hi hb hij
  | @tail k j hik hkj ih =>
      intro b hb
      have hk : k < size := by
        cases hik with
        | single hik => exact hnext _ k hik
        | tail _ hlk => exact hnext _ k hlk
      obtain ⟨d, hd⟩ := h.exists_circle hk
      exact hstep d b k j (ih d hd) hd hb hkj

/-- A node is ready if its circle waits for no edge. -/
theorem isReady_iff {a i : Nat} (hi : i ∈ c.circle a) :
    (Reach.ofGraph next size).isReady (c.pending size left) i = true ↔ c.waits left a = 0 := by
  have htrans := Reach.reaches_ofGraph_trans hnext
  rw [Reach.isReady, List.all_eq_true, Condensed.waits_eq_zero_iff]
  constructor
  · intro hall b hb hedge
    obtain ⟨hab, x, hx, y, hy, hxy⟩ := (h.mem_edges_iff a b).1 hedge
    have hysize := h.lt_of_mem_circle hy
    have hix := (h.sameCycle_iff_mem_circle hnext hi (h.lt_of_mem_circle hx)).2 hx
    have hreach := Reach.reaches_of_sameCycle htrans hix
      ((Reach.reaches_ofGraph_iff hnext x y).2 ⟨h.lt_of_mem_circle hx, TransGen.single hxy⟩)
    have hready := hall y (h.mem_pending_of_mem_circle hb hy)
    rw [hreach, Bool.not_true, Bool.or_false] at hready
    exact hab (h.eq_of_mem_circle ((h.sameCycle_iff_mem_circle hnext hi hysize).1 hready) hy)
  · intro hnone j hj
    obtain ⟨hsize, b, hb, hjb⟩ := Condensed.mem_pending.1 hj
    by_cases hreach : (Reach.ofGraph next size).reaches i j = true
    · have hpath := ((Reach.reaches_ofGraph_iff hnext i j).1 hreach).2
      have hwaits := Condensed.waits_eq_zero_iff.2 hnone
      have heq := (h.eq_or_not_mem_of_transGen hleft hnext hwaits hi hpath b hjb).resolve_right
        (not_not_intro hb)
      rw [(h.sameCycle_iff_mem_circle hnext hi hsize).2 (heq ▸ hjb), Bool.true_or]
    · simp [hreach]

variable {w : Waiting} (hw : Emitting c left [] w)

include hw

/-- The queue holds the circles of the nodes that are ready. -/
theorem entry_mem_queue_iff {a i : Nat} (ha : a ∈ left)
    (hi : i ∈ c.circle a) :
    c.entry a ∈ w.queue ↔ (Reach.ofGraph next size).isReady (c.pending size left) i = true := by
  rw [h.isReady_iff hleft hnext hi, hw.mem_queue_iff]
  change a ∈ left ∧ w.counters[a]? = some 0 ∧ _ ↔ _
  rw [hw.counters_eq a (hleft.lt_length a ha), List.count_nil, Nat.add_zero, Option.some.injEq]
  exact ⟨fun hzero => hzero.2.1, fun hzero => ⟨ha, hzero, rfl⟩⟩

/-- If the queue is empty, nothing is pending. -/
theorem pending_eq_nil (hqueue : w.queue = []) :
    c.pending size left = [] := by
  by_contra hne
  obtain ⟨i, hi, hready⟩ := Reach.exists_isReady (Reach.reaches_ofGraph_trans hnext) hne
  obtain ⟨-, a, ha, hia⟩ := Condensed.mem_pending.1 hi
  have hmem := (h.entry_mem_queue_iff hleft hnext hw ha hia).2 hready
  rw [hqueue] at hmem
  cases hmem

/-- The first entry of the queue is the first node that is ready. -/
theorem find?_isReady_pending {k a : Nat}
    {rest : List (Nat × Nat)} (hqueue : w.queue = (k, a) :: rest) :
    a ∈ left ∧ c.waits left a = 0 ∧ k ∈ c.circle a ∧
      (c.pending size left).find? ((Reach.ofGraph next size).isReady (c.pending size left)) =
        some k := by
  have hmem : (k, a) ∈ w.queue := hqueue ▸ List.mem_cons_self
  obtain ⟨ha, hzero, hentry⟩ := (hw.mem_queue_iff _).1 hmem
  have hk : k = firstPosition (c.circle a) := congrArg Prod.fst hentry
  have hka : k ∈ c.circle a := hk ▸ firstPosition_mem (h.circle_ne_nil (hleft.lt_length a ha))
  have hready := (h.entry_mem_queue_iff hleft hnext hw ha hka).1 (hentry ▸ hmem)
  refine ⟨ha, (h.isReady_iff hleft hnext hka).1 hready, hka, ?_⟩
  refine find?_eq_some_of_least (List.pairwise_lt_range.filter _)
    (h.mem_pending_of_mem_circle ha hka) hready ?_
  intro j hj hjready
  obtain ⟨-, b, hb, hjb⟩ := Condensed.mem_pending.1 hj
  have hbefore : k ≤ firstPosition (c.circle b) := by
    have hqueued := (h.entry_mem_queue_iff hleft hnext hw hb hjb).2 hjready
    have hsorted := hw.sorted
    rw [hqueue] at hqueued hsorted
    rcases List.mem_cons.1 hqueued with heq | hrest
    · exact Nat.le_of_eq (congrArg Prod.fst heq).symm
    · have hfirst := takenBefore_iff.1 ((List.pairwise_cons.1 hsorted).1 _ hrest)
      simp only [Condensed.entry] at hfirst
      omega
  exact Nat.le_trans hbefore (firstPosition_le hjb)

omit hnext hw in
theorem dependents_subset {a b : Nat} (ha : a ∈ left) (hb : b ∈ c.dependents a) :
    b ∈ left.erase a := by
  have hedge := Condensed.mem_dependents.1 hb
  exact Finset.mem_erase.2
    ⟨((h.mem_edges_iff b a).1 hedge).1, hleft.mem_of_edge b a hedge ha⟩

/-- While the invariant holds, the loop goes on as it is meant to. -/
theorem run_eq :
    c.run w = some ((Reach.ofGraph next size).emit (c.pending size left)) := by
  fun_induction Condensed.run c w generalizing left with
  | case1 w hqueue =>
      rw [h.pending_eq_nil hleft hnext hw hqueue, Reach.emit_of_find?_eq_none rfl]
  | case2 w k a rest hqueue hnone =>
      obtain ⟨ha, hwaits, -, -⟩ := h.find?_isReady_pending hleft hnext hw hqueue
      obtain ⟨w', hw', -⟩ := (hw.pop hqueue).foldlM_countDown (hleft.erase hwaits)
        fun b hb => h.dependents_subset hleft ha hb
      rw [hw'] at hnone
      cases hnone
  | case3 w k a rest hqueue w' hsome ih =>
      obtain ⟨ha, hwaits, hka, hfind⟩ := h.find?_isReady_pending hleft hnext hw hqueue
      obtain ⟨w'', hw'', hnextw⟩ := (hw.pop hqueue).foldlM_countDown
        (hleft.erase hwaits) fun b hb => h.dependents_subset hleft ha hb
      rw [hsome] at hw''
      cases hw''
      rw [ih (hleft.erase hwaits) hnextw, Reach.emit_of_find?_eq_some hfind,
        h.inside_pending hnext ha hka, h.outside_pending hnext hka, Option.map_some]

end IsCondensation

/-- The loop gives the order that is meant, whatever circles it is given that are right. -/
theorem run_start_eq {next : Nat → List Nat} {size : Nat} {c : Condensed}
    (hnext : ∀ i, ∀ j ∈ next i, j < size) (h : IsCondensation next size c) :
    c.run c.start = some ((Reach.ofGraph next size).emit (List.range size)) := by
  have hedges : ∀ a b, (a, b) ∈ c.edges → a < c.circles.length ∧ b < c.circles.length := by
    intro a b hedge
    obtain ⟨-, i, hi, j, hj, -⟩ := (h.mem_edges_iff a b).1 hedge
    exact ⟨Condensed.lt_length_of_mem_circle hi, Condensed.lt_length_of_mem_circle hj⟩
  have hleft : Condensed.Remaining c (Finset.range c.circles.length) :=
    ⟨fun a ha => Finset.mem_range.1 ha,
      fun a b hedge _ => Finset.mem_range.2 (hedges a b hedge).1⟩
  have hall : c.pending size (Finset.range c.circles.length) = List.range size := by
    rw [Condensed.pending, List.filter_eq_self]
    intro i hi
    obtain ⟨a, ha⟩ := h.exists_circle (List.mem_range.1 hi)
    exact decide_eq_true ⟨a, Finset.mem_range.2 (Condensed.lt_length_of_mem_circle ha), ha⟩
  rw [h.run_eq hleft hnext (Condensed.emitting_start fun a b hedge => (hedges a b hedge).2), hall]

/-! ## Slots -/

/-- Slots that are taken once each give what they hold. -/
theorem takeSlots_eq {α : Type} {slots : List (Option α)} {sequence : List Nat}
    (hnodup : sequence.Nodup) : takeSlots slots sequence =
      sequence.filterMap fun i => slots[i]?.join := by
  induction sequence generalizing slots with
  | nil => rfl
  | cons i sequence ih =>
      obtain ⟨hi, hnodup⟩ := List.nodup_cons.1 hnodup
      have hrest : ∀ j ∈ sequence, (slots.set i none)[j]?.join = slots[j]?.join := by
        intro j hj
        have hne : i ≠ j := fun heq => hi (heq ▸ hj)
        rw [List.getElem?_set_ne hne]
      rw [takeSlots, List.filterMap_cons]
      split
      · next x hx =>
          rw [hx, ih hnodup, List.filterMap_congr hrest]
          rfl
      · next hx =>
          rw [hx, ih hnodup]
          rfl
      · next hx =>
          rw [hx, ih hnodup]
          rfl

end TypedClient.Plan
