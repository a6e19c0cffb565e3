import Mathlib.Data.List.Forall2
import Mathlib.Tactic.Common

/-!
# Lists

Facts about lists whose items belong together, are made from one another or repeat each other.
-/

namespace TypedClient.Plan

section Related

variable {α β : Type} {R : α → β → Prop} {xs : List α} {ys : List β}

theorem exists_of_mem_left (h : List.Forall₂ R xs ys) {x : α} (hx : x ∈ xs) :
    ∃ y ∈ ys, R x y := by
  induction h with
  | nil => cases hx
  | cons hR _ ih =>
      rcases List.mem_cons.1 hx with rfl | hx
      · exact ⟨_, List.mem_cons_self, hR⟩
      · obtain ⟨y, hy, hxy⟩ := ih hx
        exact ⟨y, List.mem_cons_of_mem _ hy, hxy⟩

theorem exists_of_mem_right (h : List.Forall₂ R xs ys) {y : β} (hy : y ∈ ys) :
    ∃ x ∈ xs, R x y := exists_of_mem_left h.flip hy

theorem map_eq_map_of_forall₂ {γ : Type} {f : α → γ} {g : β → γ} (h : List.Forall₂ R xs ys)
    (hR : ∀ x y, R x y → g y = f x) : ys.map g = xs.map f := by
  induction h with
  | nil => rfl
  | cons hxy _ ih => rw [List.map_cons, List.map_cons, hR _ _ hxy, ih]

/-- Related lists stay related when items that go together are selected alike. -/
theorem forall₂_filter {p : α → Bool} {q : β → Bool} (h : List.Forall₂ R xs ys)
    (hR : ∀ x y, R x y → p x = q y) : List.Forall₂ R (xs.filter p) (ys.filter q) :=
  List.rel_filter (fun x y hxy => Bool.eq_iff_iff.1 (hR x y hxy)) h

/-- Lists that are related to one list are related to each other. -/
theorem forall₂_comp {γ : Type} {S : β → γ → Prop} {T : α → γ → Prop} {zs : List γ}
    (h : List.Forall₂ R xs ys) (h' : List.Forall₂ S ys zs)
    (hT : ∀ x y z, R x y → S y z → T x z) : List.Forall₂ T xs zs := by
  induction h generalizing zs with
  | nil =>
      cases h'
      exact List.Forall₂.nil
  | cons hxy _ ih =>
      obtain _ | ⟨hyz, h'⟩ := h'
      exact List.Forall₂.cons (hT _ _ _ hxy hyz) (ih h')

end Related

theorem exists_of_mem_zipWith {α β γ : Type} {f : α → β → γ} {xs : List α} {ys : List β} {z : γ}
    (h : z ∈ List.zipWith f xs ys) : ∃ x ∈ xs, ∃ y ∈ ys, f x y = z := by
  rw [← List.map_uncurry_zip_eq_zipWith] at h
  obtain ⟨⟨x, y⟩, hmem, rfl⟩ := List.mem_map.1 h
  obtain ⟨hx, hy⟩ := List.of_mem_zip hmem
  exact ⟨x, hx, y, hy, rfl⟩

section ZipWith

variable {α β γ : Type} {f : α → β → γ} {xs : List α} {ys : List β}

theorem map_zipWith_left {g : γ → α} (h : ∀ x y, g (f x y) = x) (hlength : xs.length ≤ ys.length) :
    (List.zipWith f xs ys).map g = xs := by
  have hcomp : g ∘ Function.uncurry f = Prod.fst := by
    funext p
    exact h p.1 p.2
  rw [← List.map_uncurry_zip_eq_zipWith, List.map_map, hcomp]
  exact List.map_fst_zip hlength

theorem map_zipWith_right {g : γ → β} (h : ∀ x y, g (f x y) = y)
    (hlength : ys.length ≤ xs.length) : (List.zipWith f xs ys).map g = ys := by
  have hcomp : g ∘ Function.uncurry f = Prod.snd := by
    funext p
    exact h p.1 p.2
  rw [← List.map_uncurry_zip_eq_zipWith, List.map_map, hcomp]
  exact List.map_snd_zip hlength

theorem forall₂_zipWith {R : β → γ → Prop} (h : ∀ x y, R y (f x y))
    (hlength : xs.length = ys.length) : List.Forall₂ R ys (List.zipWith f xs ys) := by
  induction xs generalizing ys with
  | nil =>
      rw [List.length_eq_zero_iff.1 hlength.symm]
      exact List.Forall₂.nil
  | cons x xs ih =>
      cases ys with
      | nil => cases hlength
      | cons y ys => exact List.Forall₂.cons (h x y) (ih (Nat.succ.inj hlength))

end ZipWith

/-- Two lists made from one have the same repetitions if they tell the same items apart. -/
theorem nodup_map_iff_nodup_map {α β γ : Type} {f : α → β} {g : α → γ} {xs : List α}
    (h : ∀ x ∈ xs, ∀ y ∈ xs, f x = f y ↔ g x = g y) :
    (xs.map f).Nodup ↔ (xs.map g).Nodup := by
  unfold List.Nodup
  rw [List.pairwise_map, List.pairwise_map]
  constructor
  · intro hf
    exact hf.imp_of_mem fun hx hy hne heq => hne ((h _ hx _ hy).2 heq)
  · intro hg
    exact hg.imp_of_mem fun hx hy hne heq => hne ((h _ hx _ hy).1 heq)

/-- In a list of distinct keys, a value is found under its key. -/
theorem lookup_of_mem {α β : Type} [BEq α] [LawfulBEq α] {xs : List (α × β)} {key : α} {value : β}
    (hkeys : (xs.map Prod.fst).Nodup) (h : (key, value) ∈ xs) : xs.lookup key = some value := by
  obtain ⟨before, after, rfl⟩ := List.append_of_mem h
  rw [List.map_append, List.nodup_append] at hkeys
  rw [List.lookup_eq_some_iff]
  refine ⟨before, after, rfl, ?_⟩
  intro x hx
  have hne := hkeys.2.2 x.1 (List.mem_map_of_mem hx) key List.mem_cons_self
  simpa using hne.symm

/-- Texts up to the first of a separator are told apart. -/
theorem append_cons_inj {α : Type} {c : α} {xs ys xs' ys' : List α} (hx : c ∉ xs) (hy : c ∉ ys)
    (h : xs ++ c :: xs' = ys ++ c :: ys') : xs = ys ∧ xs' = ys' := by
  induction xs generalizing ys with
  | nil =>
      cases ys with
      | nil =>
          cases h
          exact ⟨rfl, rfl⟩
      | cons y ys =>
          cases h
          exact absurd List.mem_cons_self hy
  | cons x xs ih =>
      cases ys with
      | nil =>
          cases h
          exact absurd List.mem_cons_self hx
      | cons y ys =>
          rw [List.cons_append, List.cons_append, List.cons.injEq] at h
          obtain ⟨rfl, h⟩ := h
          obtain ⟨rfl, rfl⟩ := ih (fun hc => hx (List.mem_cons_of_mem x hc))
            (fun hc => hy (List.mem_cons_of_mem x hc)) h
          exact ⟨rfl, rfl⟩

theorem exists_mem_and_iff {α : Type} {p : Prop} {xs : List α} :
    (∃ x ∈ xs, p) ↔ p ∧ xs ≠ [] := by
  cases xs <;> simp

end TypedClient.Plan
