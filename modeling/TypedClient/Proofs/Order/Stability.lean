import TypedClient.Proofs.Order.Dependencies
import TypedClient.Proofs.Order.Extension

/-!
# Models that are in order already

`orderModels` moves no model that need not be moved. If every listed model that a model refers to
stands before it, or depends on it as well, and models that depend on each other stand side by side,
then the models keep their places; and since ordered models are of this kind
(`isOrdered_orderModels`), ordering them once more changes nothing at all
(`orderModels_eq_self_of_isOrdered`), whatever circles the loop is given that are right
(`orderModelsBy_eq_self_of_isOrdered`).

The reason is a statement about `Reach.emit`: as long as the pending nodes are settled, the first
one is ready, and its circle stands in front of all others (`Reach.emit_eq_self`).
-/

namespace TypedClient.Plan

open Relation (TransGen)

/-! ## Settled nodes -/

/-- What satisfies a predicate comes first, if it is never behind something that does not. -/
theorem filter_append_filter_not {α : Type} {p : α → Bool} {xs : List α}
    (h : xs.Pairwise fun x y => p y = true → p x = true) :
    xs.filter p ++ xs.filter (fun x => !p x) = xs := by
  induction xs with
  | nil => rfl
  | cons x xs ih =>
      obtain ⟨hx, hxs⟩ := List.pairwise_cons.1 h
      by_cases hp : p x = true
      · rw [List.filter_cons_of_pos hp, List.filter_cons_of_neg (by simp [hp]), List.cons_append,
          ih hxs]
      · have hnone : ∀ y ∈ xs, ¬ p y = true := fun y hy hpy => hp (hx y hy hpy)
        rw [List.filter_cons_of_neg hp, List.filter_eq_nil_iff.2 hnone, List.nil_append,
          List.filter_eq_self]
        intro y hy
        rcases List.mem_cons.1 hy with rfl | hy
        · simp [hp]
        · simp [hnone y hy]

namespace Reach

variable {r : Reach}

/-- Nodes whose order need not be changed. -/
structure Settled (r : Reach) (pending : List Nat) : Prop where
  /-- A node reaches later ones only within its circle. -/
  back : pending.Pairwise fun i j => r.reaches i j = true → r.sameCycle i j = true
  /-- Between two nodes of a circle there are only nodes of it. -/
  between : ∀ i j k, List.Sublist [i, j, k] pending → r.sameCycle i k = true →
    r.sameCycle i j = true

theorem Settled.sublist {pending others : List Nat} (h : r.Settled pending)
    (hsub : others.Sublist pending) : r.Settled others where
  back := h.back.sublist hsub
  between i j k htriple := h.between i j k (htriple.trans hsub)

/-- The first of settled nodes waits for none of the others. -/
theorem Settled.find?_isReady {i : Nat} {pending : List Nat} (h : r.Settled (i :: pending)) :
    (i :: pending).find? (r.isReady (i :: pending)) = some i := by
  rw [List.find?_cons_of_pos]
  rw [isReady, List.all_eq_true]
  intro j hj
  rcases List.mem_cons.1 hj with rfl | hj
  · rw [sameCycle_self, Bool.true_or]
  · have hback := List.rel_of_pairwise_cons h.back hj
    by_cases hij : r.reaches i j = true
    · rw [hback hij, Bool.true_or]
    · simp [hij]

/-- The circle of the first of settled nodes stands in front of the others. -/
theorem Settled.inside_append_outside {i : Nat} {pending : List Nat}
    (h : r.Settled (i :: pending)) :
    r.inside i (i :: pending) ++ r.outside i (i :: pending) = i :: pending := by
  apply filter_append_filter_not
  rw [List.pairwise_cons]
  refine ⟨fun j _ _ => sameCycle_self r i, ?_⟩
  rw [List.pairwise_iff_forall_sublist]
  intro j k hsub hik
  exact h.between i j k (hsub.cons_cons i) hik

/-- Settled nodes are emitted in their order. -/
theorem emit_eq_self {pending : List Nat} (h : r.Settled pending) : r.emit pending = pending := by
  fun_induction emit r pending with
  | case1 pending hnone => rfl
  | case2 pending i hfind ih =>
      cases pending with
      | nil => cases hfind
      | cons first rest =>
          rw [h.find?_isReady] at hfind
          cases hfind
          rw [ih (h.sublist List.filter_sublist), h.inside_append_outside]

/-! ## From single steps to paths -/

/-- A node stands before the whole circle of another one. -/
def Precedes (r : Reach) (j i : Nat) : Prop := ∀ k, r.sameCycle i k = true → j < k

section Steps

variable (htrans : ∀ i j k, r.reaches i j = true → r.reaches j k = true → r.reaches i k = true)
  (hbetween : ∀ i j k, i < j → j < k → r.sameCycle i k = true → r.sameCycle i j = true)

include htrans hbetween

/-- A node that stands before one node of a circle and is not in it stands before all of it. -/
theorem precedes_of_lt {i j : Nat} (hji : j < i) (hcycle : ¬ r.sameCycle i j = true) :
    r.Precedes j i := by
  intro k hik
  by_contra hkj
  rcases Nat.eq_or_lt_of_le (Nat.le_of_not_lt hkj) with rfl | hkj
  · exact hcycle hik
  · have hkj' := hbetween k j i hkj hji (sameCycle_symm hik)
    exact hcycle (sameCycle_trans htrans hik hkj')

/-- If a node stands before a circle, so does the whole circle of that node. -/
theorem Precedes.of_sameCycle {i j k : Nat} (hji : r.Precedes j i) (hjk : r.sameCycle j k = true) :
    r.Precedes k i := by
  intro l hil
  by_contra hlk
  have hjl := hji l hil
  have hcycle : r.sameCycle j l = true := by
    rcases Nat.eq_or_lt_of_le (Nat.le_of_not_lt hlk) with rfl | hlk
    · exact hjk
    · exact hbetween j l k hjl hlk hjk
  -- so `j` is in the circle that it stands before
  have hij := sameCycle_trans htrans hil (sameCycle_symm hcycle)
  exact Nat.lt_irrefl j (hji j hij)

/-- If every step leads back or stays in the circle, so does every path. -/
theorem sameCycle_or_precedes {next : Nat → Nat → Prop}
    (hstep : ∀ i j, next i j → r.sameCycle i j = true ∨ j < i) {i j : Nat}
    (hpath : TransGen next i j) : r.sameCycle i j = true ∨ r.Precedes j i := by
  have hsingle : ∀ i j, next i j → r.sameCycle i j = true ∨ r.Precedes j i := by
    intro i j hij
    by_cases hcycle : r.sameCycle i j = true
    · exact Or.inl hcycle
    · exact Or.inr (precedes_of_lt htrans hbetween ((hstep i j hij).resolve_left hcycle) hcycle)
  induction hpath using TransGen.head_induction_on with
  | single hij => exact hsingle _ j hij
  | @head i k hik _ ih =>
      rcases hsingle i k hik, ih with ⟨hik | hki, hkj | hjk⟩
      · exact Or.inl (sameCycle_trans htrans hik hkj)
      · exact Or.inr fun l hil => hjk l (sameCycle_trans htrans (sameCycle_symm hik) hil)
      · exact Or.inr (hki.of_sameCycle htrans hbetween hkj)
      · exact Or.inr fun l hil => Nat.lt_trans (hjk k (sameCycle_self r k)) (hki l hil)

end Steps

end Reach

/-! ## Models in order -/

/-- Models that are in dependency order. -/
structure IsOrdered (models : List Model) : Prop where
  /-- A model that is referred to stands before its referrer, unless it depends on it. -/
  lt_of_reference : ∀ (i j : Nat) (a b : Model), models[i]? = some a → models[j]? = some b →
    b.name ∈ a.references → ¬ DependsOn models b.name a.name → j < i
  /-- Between two models that depend on each other there are only models of their circle. -/
  between : ∀ (i j k : Nat) (a b c : Model), models[i]? = some a → models[j]? = some b →
    models[k]? = some c → i < j → j < k →
    DependsOn models a.name c.name → DependsOn models c.name a.name →
    DependsOn models a.name b.name ∧ DependsOn models b.name a.name

section Distinct

variable {models : List Model} (hnames : (models.map Model.name).Nodup)

theorem lt_length_of_reaches {i j : Nat} (h : (reachOf models).reaches i j = true) :
    i < models.length :=
  ((reaches_reachOf_iff models i j).1 h).1

theorem getElem?_map_name {i : Nat} {m : Model} (h : models[i]? = some m) :
    (models.map Model.name)[i]? = some m.name := by
  rw [List.getElem?_map, h, Option.map_some]

include hnames

theorem IsOrdered.sameCycle_of_lt (h : IsOrdered models) (i j k : Nat) (hij : i < j) (hjk : j < k)
    (hik : (reachOf models).sameCycle i k = true) : (reachOf models).sameCycle i j = true := by
  obtain ⟨hreach, hback⟩ := ((Reach.sameCycle_iff i k).1 hik).resolve_left (by omega)
  have hk := lt_length_of_reaches hback
  have ha := List.getElem?_eq_getElem (l := models) (i := i) (by omega)
  have hb := List.getElem?_eq_getElem (l := models) (i := j) (by omega)
  have hc := List.getElem?_eq_getElem hk
  rw [reaches_iff_dependsOn hnames (getElem?_map_name ha) (getElem?_map_name hc)] at hreach
  rw [reaches_iff_dependsOn hnames (getElem?_map_name hc) (getElem?_map_name ha)] at hback
  rw [sameCycle_iff_dependsOn hnames (getElem?_map_name ha) (getElem?_map_name hb)]
  exact Or.inr (h.between i j k _ _ _ ha hb hc hij hjk hreach hback)

theorem IsOrdered.sameCycle_or_lt (h : IsOrdered models) (i j : Nat)
    (hij : Follows (successors models) i j) : (reachOf models).sameCycle i j = true ∨ j < i := by
  unfold Follows successors at hij
  split at hij
  · cases hij
  · next a ha =>
      obtain ⟨name, href, hname⟩ := List.mem_filterMap.1 hij
      rw [lastPosition?_eq_some_iff hnames, List.getElem?_map] at hname
      obtain ⟨b, hb, rfl⟩ := Option.map_eq_some_iff.1 hname
      by_cases hback : DependsOn models b.name a.name
      · have hdep : DependsOn models a.name b.name :=
          TransGen.single ⟨⟨a, List.mem_of_getElem? ha, rfl, href⟩,
            List.mem_map_of_mem (List.mem_of_getElem? hb)⟩
        left
        rw [sameCycle_iff_dependsOn hnames (getElem?_map_name ha) (getElem?_map_name hb)]
        exact Or.inr ⟨hdep, hback⟩
      · exact Or.inr (h.lt_of_reference i j a b ha hb href hback)

theorem IsOrdered.settled (h : IsOrdered models) :
    (reachOf models).Settled (List.range models.length) := by
  have htrans := reaches_reachOf_trans models
  have hbetween := h.sameCycle_of_lt hnames
  constructor
  · refine List.pairwise_lt_range.imp ?_
    intro i j hij hreach
    have hpath := ((reaches_reachOf_iff models i j).1 hreach).2
    rcases Reach.sameCycle_or_precedes htrans hbetween (h.sameCycle_or_lt hnames) hpath
      with hcycle | hprecedes
    · exact hcycle
    · have hji := hprecedes i (Reach.sameCycle_self _ i)
      omega
  · intro i j k hsub hik
    have hlt := List.pairwise_lt_range.sublist hsub
    simp only [List.pairwise_cons, List.mem_cons] at hlt
    exact hbetween i j k (hlt.1 j (Or.inl rfl)) (hlt.2.1 k (Or.inl rfl)) hik

/-- Models that are in order are not moved. -/
theorem IsOrdered.arrange_eq_self (h : IsOrdered models) : arrange models = models := by
  rw [arrange_eq, emission, Reach.emit_eq_self (h.settled hnames), filterMap_getElem?_range]

end Distinct

/-! ## Ordered models -/

theorem Model.name_unmarked (m : Model) : m.unmarked.name = m.name := rfl

theorem Model.references_unmarked (m : Model) : m.unmarked.references = m.references := by
  simp [Model.unmarked, Model.mapReferences, Model.references, List.filterMap_map,
    Kind.model?_mapModel]

/-- Who refers to whom depends neither on the order of the models nor on their marks. -/
theorem Refers.of_perm {models others : List Model} {a b : String}
    (hperm : (models.map Model.unmarked).Perm (others.map Model.unmarked))
    (h : Refers models a b) : Refers others a b := by
  have hmem : ∀ m ∈ models, ∃ m' ∈ others, m'.name = m.name ∧ m'.references = m.references := by
    intro m hm
    obtain ⟨m', hm', heq⟩ := List.mem_map.1 (hperm.subset (List.mem_map_of_mem hm))
    refine ⟨m', hm', ?_, ?_⟩
    · rw [← m'.name_unmarked, heq, m.name_unmarked]
    · rw [← m'.references_unmarked, heq, m.references_unmarked]
  obtain ⟨⟨m, hm, rfl, href⟩, hb⟩ := h
  obtain ⟨t, ht, rfl⟩ := List.mem_map.1 hb
  obtain ⟨m', hm', hname, hreferences⟩ := hmem m hm
  obtain ⟨t', ht', htname, -⟩ := hmem t ht
  exact ⟨⟨m', hm', hname, hreferences ▸ href⟩, List.mem_map.2 ⟨t', ht', htname⟩⟩

theorem unmarked_orderModels_perm (models : List Model) :
    ((orderModels models).map Model.unmarked).Perm (models.map Model.unmarked) := by
  rw [orderModels_eq, unmarked_markModels]
  exact (arrange_perm models).map Model.unmarked

theorem dependsOn_orderModels_iff {models : List Model} {a b : String} :
    DependsOn (orderModels models) a b ↔ DependsOn models a b := by
  have hperm := unmarked_orderModels_perm models
  constructor
  · exact TransGen.mono (fun _ _ => Refers.of_perm hperm) a b
  · exact TransGen.mono (fun _ _ => Refers.of_perm hperm.symm) a b

/-- In a list of distinct entries, what stands between two entries of a block is in the block. -/
theorem mem_of_between {α : Type} {front block rest : List α} {i j k : Nat} {a b c : α}
    (hnodup : (front ++ (block ++ rest)).Nodup) (ha : a ∈ block) (hc : c ∈ block)
    (hi : (front ++ (block ++ rest))[i]? = some a) (hj : (front ++ (block ++ rest))[j]? = some b)
    (hk : (front ++ (block ++ rest))[k]? = some c) (hij : i < j) (hjk : j < k) : b ∈ block := by
  have hposition : ∀ {l : Nat} {x : α}, x ∈ block → (front ++ (block ++ rest))[l]? = some x →
      front.length ≤ l ∧ l < front.length + block.length := by
    intro l x hx hl
    obtain ⟨n, hn, rfl⟩ := List.mem_iff_getElem.1 hx
    have hplace : (front ++ (block ++ rest))[front.length + n]? = some block[n] := by
      rw [List.getElem?_append_right (Nat.le_add_right _ _), Nat.add_sub_cancel_left,
        List.getElem?_append_left hn, List.getElem?_eq_getElem hn]
    have heq : l = front.length + n :=
      (List.getElem?_inj (List.getElem?_eq_some_iff.1 hl).1 hnodup).1 (hl.trans hplace.symm)
    omega
  have hfirst := (hposition ha hi).1
  have hlast := (hposition hc hk).2
  rw [List.getElem?_append_right (by omega), List.getElem?_append_left (by omega)] at hj
  exact List.mem_of_getElem? hj

theorem nodup_name_orderModels {models : List Model} (hnames : (models.map Model.name).Nodup) :
    ((orderModels models).map Model.name).Nodup := by
  rw [map_name_orderModels]
  exact ((arrange_perm models).map Model.name).nodup_iff.2 hnames

/-- Ordered models are in order. -/
theorem isOrdered_orderModels {models : List Model} (hnames : (models.map Model.name).Nodup) :
    IsOrdered (orderModels models) where
  lt_of_reference := by
    intro i j a b hi hj href hback
    have hname : b.name ∈ (orderModels models).map Model.name :=
      List.mem_map_of_mem (List.mem_of_getElem? hj)
    have hdep : DependsOn (orderModels models) a.name b.name :=
      TransGen.single ⟨⟨a, List.mem_of_getElem? hi, rfl, href⟩, hname⟩
    rw [dependsOn_orderModels_iff] at hdep hback
    rcases Nat.lt_trichotomy j i with hlt | rfl | hlt
    · exact hlt
    · rw [hi] at hj
      cases hj
      exact absurd hdep hback
    · exact absurd (dependsOn_back_of_lt hnames hi hj hlt hdep) hback
  between := by
    intro i j k a b c hi hj hk hij hjk hac hca
    rw [dependsOn_orderModels_iff] at hac hca ⊢
    rw [dependsOn_orderModels_iff]
    have hnodup := nodup_name_orderModels hnames
    have hgiven : ∀ {l : Nat} {m : Model}, (orderModels models)[l]? = some m →
        m.name ∈ models.map Model.name :=
      fun h => mem_map_name_orderModels.1 (List.mem_map_of_mem (List.mem_of_getElem? h))
    -- the block of `a` holds `c`, and with it everything up to `c`
    obtain ⟨blocks, hflat, hblocks⟩ := exists_blocks hnames
    obtain ⟨block, hblock, ha⟩ : ∃ block ∈ blocks, a.name ∈ block := by
      rw [← List.mem_flatten, hflat]
      exact List.mem_map_of_mem (List.mem_of_getElem? hi)
    have hiff := (hblocks block hblock).2 a.name ha
    have hc : c.name ∈ block := (hiff c.name (hgiven hk)).2 (Or.inr ⟨hac, hca⟩)
    obtain ⟨front, rest, rfl⟩ := List.append_of_mem hblock
    rw [List.flatten_append, List.flatten_cons] at hflat
    have hb : b.name ∈ block := by
      refine mem_of_between (hflat ▸ hnodup) ha hc ?_ ?_ ?_ hij hjk
      · rw [hflat, getElem?_map_name hi]
      · rw [hflat, getElem?_map_name hj]
      · rw [hflat, getElem?_map_name hk]
    refine ((hiff b.name (hgiven hj)).1 hb).resolve_left fun heq => ?_
    have hsame := eq_of_getElem?_names hnodup (getElem?_map_name hi) (heq ▸ getElem?_map_name hj)
    omega

theorem markModels_markModels (models : List Model) :
    markModels (markModels models) = markModels models := by
  apply List.ext_getElem?
  intro i
  rw [getElem?_markModels, getElem?_markModels, map_name_markModels, Option.map_map]
  congr 1
  funext m
  simp [Model.markedAt, Model.mapReferences, Kind.mapModel_mapModel]

/-- Models that are in order stay where they are, and ordered models stay as they are. -/
theorem orderModels_eq_self_of_isOrdered (models : List Model)
    (hnames : (models.map Model.name).Nodup) :
    (IsOrdered models →
      (orderModels models).map Model.unmarked = models.map Model.unmarked) ∧
    orderModels (orderModels models) = orderModels models := by
  constructor
  · intro h
    rw [orderModels_eq, unmarked_markModels, h.arrange_eq_self hnames]
  · have harrange :=
      (isOrdered_orderModels hnames).arrange_eq_self (nodup_name_orderModels hnames)
    calc orderModels (orderModels models)
        = markModels (orderModels models) := by rw [orderModels_eq, harrange]
      _ = orderModels models := by rw [orderModels_eq, markModels_markModels]

/-- Models that are in order stay where they are, and ordered models stay as they are, whatever
circles the loop is given that are right. -/
theorem orderModelsBy_eq_self_of_isOrdered {condensation : (Nat → List Nat) → Nat → Condensed}
    (h : Condenses condensation) (models : List Model) (hnames : (models.map Model.name).Nodup) :
    (IsOrdered models →
      (orderModelsBy condensation models).map Model.unmarked = models.map Model.unmarked) ∧
    orderModelsBy condensation (orderModelsBy condensation models) =
      orderModelsBy condensation models := by
  rw [orderModelsBy_eq h]
  exact orderModels_eq_self_of_isOrdered models hnames

theorem orderModelsBy_eq_self_of_isOrdered_staff :
    Condenses condense ∧ ((orderModels staff).map Model.name).Nodup ∧
      IsOrdered (orderModels staff) ∧
      (orderModelsBy condense (orderModels staff)).map Model.unmarked =
        (orderModels staff).map Model.unmarked ∧
      (orderModels staff).map Model.name = ["Badge", "Employee", "Team", "Report"] :=
  have hstaff : (staff.map Model.name).Nodup := by decide
  have hnames := nodup_name_orderModels hstaff
  have hordered := isOrdered_orderModels hstaff
  ⟨condenses_condense, hnames, hordered,
    (orderModelsBy_eq_self_of_isOrdered condenses_condense (orderModels staff) hnames).1 hordered,
    by decide +kernel⟩

end TypedClient.Plan
