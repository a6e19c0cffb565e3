import Mathlib.Tactic.Common
import TypedClient.Proofs.Names.Claims

/-!
# Stages that give names

A stage reads the names that hold and may fail. A run of a stage that succeeds falls apart into
runs of its steps: the lemmas here take a `do` block apart, one step each. `Gives` says what every
run of a stage from sound names gives, and what each step gives is given by a stage on a whole list
(`gives_mapM`). Where the names do not count, `Yields` says that some run gives a result.
-/

namespace TypedClient.Plan

namespace Claiming

variable {α β : Type} {n next : Names}

/-! ## Single steps -/

theorem bind_of_ok {m : Claiming α} {a : α} (h : m n = .ok (a, next)) (f : α → Claiming β) :
    (m >>= f) n = f a next := by
  change (m n >>= fun r => f r.1 r.2) = f a next
  rw [h]
  rfl

theorem bind_of_error {m : Claiming α} {e : GenerationError} (h : m n = .error e)
    (f : α → Claiming β) : (m >>= f) n = .error e := by
  change (m n >>= fun r => f r.1 r.2) = .error e
  rw [h]
  rfl

theorem lift_ok_bind (a : α) (f : α → Claiming β) :
    ((liftM (Except.ok a : Except GenerationError α) : Claiming α) >>= f) = f a := rfl

theorem lift_error_bind (e : GenerationError) (f : α → Claiming β) :
    ((liftM (Except.error e : Except GenerationError α) : Claiming α) >>= f) = throw e := rfl

/-- Two steps in a row succeed if each does. -/
theorem bind_eq_ok {m : Claiming α} {f : α → Claiming β} {b : β}
    (h : (m >>= f) n = .ok (b, next)) :
    ∃ a middle, m n = .ok (a, middle) ∧ f a middle = .ok (b, next) := by
  cases hm : m n with
  | error e =>
      rw [bind_of_error hm] at h
      cases h
  | ok r =>
      obtain ⟨a, middle⟩ := r
      rw [bind_of_ok hm] at h
      exact ⟨a, middle, rfl, h⟩

theorem pure_eq_ok {a b : α} (h : (pure a : Claiming α) n = .ok (b, next)) :
    a = b ∧ n = next := by
  cases h
  exact ⟨rfl, rfl⟩

theorem map_eq_ok {m : Claiming α} {f : α → β} {b : β} (h : (f <$> m) n = .ok (b, next)) :
    ∃ a, m n = .ok (a, next) ∧ f a = b := by
  rw [map_eq_pure_bind] at h
  obtain ⟨a, middle, ha, hb⟩ := bind_eq_ok h
  obtain ⟨rfl, rfl⟩ := pure_eq_ok hb
  exact ⟨a, ha, rfl⟩

/-- Changing the result of a step that fails changes nothing. -/
theorem map_eq_error_iff {m : Claiming α} {f : α → β} {e : GenerationError} :
    (f <$> m) n = .error e ↔ m n = .error e := by
  rw [map_eq_pure_bind]
  cases hm : m n with
  | error e' => rw [bind_of_error hm, Except.error.injEq, Except.error.injEq]
  | ok r =>
      obtain ⟨a, middle⟩ := r
      rw [bind_of_ok hm]
      constructor <;> intro h <;> cases h

theorem map_congr {m m' : Claiming α} (h : m n = m' n) (f : α → β) :
    (f <$> m) n = (f <$> m') n := by
  rw [map_eq_pure_bind, map_eq_pure_bind]
  cases hm : m' n with
  | error e => rw [bind_of_error (h.trans hm), bind_of_error hm]
  | ok r =>
      obtain ⟨a, middle⟩ := r
      rw [bind_of_ok (h.trans hm), bind_of_ok hm]

/-- A step without names leaves them as they are. -/
theorem lift_eq_ok {x : Except GenerationError α} {a : α}
    (h : (liftM x : Claiming α) n = .ok (a, next)) : x = .ok a ∧ n = next := by
  cases x with
  | error e => cases h
  | ok b =>
      cases h
      exact ⟨rfl, rfl⟩

theorem withNames_eq_ok {f : Names → Except GenerationError (α × Names)} {a : α}
    (h : withNames f n = .ok (a, next)) : f n = .ok (a, next) := h

theorem claimType_eq_ok {name origin : String} {u : Unit}
    (h : claimType name origin n = .ok (u, next)) : n.claimType name origin = .ok next := by
  have h' : (n.claimType name origin).map ((), ·) = .ok (u, next) := h
  cases hclaim : n.claimType name origin with
  | error e =>
      rw [hclaim] at h'
      cases h'
  | ok claimed =>
      rw [hclaim] at h'
      cases h'
      rfl

theorem claimFunction_eq_ok {name origin : String} {u : Unit}
    (h : claimFunction name origin n = .ok (u, next)) :
    n.claimFunction name origin = .ok next := by
  have h' : (n.claimFunction name origin).map ((), ·) = .ok (u, next) := h
  cases hclaim : n.claimFunction name origin with
  | error e =>
      rw [hclaim] at h'
      cases h'
  | ok claimed =>
      rw [hclaim] at h'
      cases h'
      rfl

/-- A function name that stands for something else is refused. -/
theorem claimFunction_of_lookup_ne {name first origin : String}
    (h : n.functions.lookup name = some first) (hne : first ≠ origin) :
    claimFunction name origin n = .error (.functionCollision name first origin) := by
  change (n.claimFunction name origin).map ((), ·) = _
  rw [Names.claimFunction, claim_of_lookup_ne h hne]
  rfl

/-- A class name that stands for something else is refused. -/
theorem claimType_of_lookup_ne {name first origin : String}
    (h : n.types.lookup name = some first) (hne : first ≠ origin) :
    claimType name origin n = .error (.modelCollision name first origin) := by
  change (n.claimType name origin).map ((), ·) = _
  rw [Names.claimType, claim_of_lookup_ne h hne]
  rfl

/-! ## Steps on each item of a list -/

/-- A run on a list goes through each of its items. -/
theorem mapM_append_cons_eq_ok {f : α → Claiming β} {xs ys : List α} {x : α} {bs : List β}
    {last : Names} (h : (xs ++ x :: ys).mapM f n = .ok (bs, last)) :
    ∃ bs₁ n₁ b n₂ bs₂, xs.mapM f n = .ok (bs₁, n₁) ∧ f x n₁ = .ok (b, n₂) ∧
      ys.mapM f n₂ = .ok (bs₂, last) ∧ bs = bs₁ ++ b :: bs₂ := by
  rw [List.mapM_append] at h
  obtain ⟨bs₁, n₁, hxs, h⟩ := bind_eq_ok h
  obtain ⟨bs₂, n₃, hcons, h⟩ := bind_eq_ok h
  obtain ⟨rfl, rfl⟩ := pure_eq_ok h
  rw [List.mapM_cons] at hcons
  obtain ⟨b, n₂, hx, hcons⟩ := bind_eq_ok hcons
  obtain ⟨bs₃, n₄, hys, hcons⟩ := bind_eq_ok hcons
  obtain ⟨rfl, rfl⟩ := pure_eq_ok hcons
  exact ⟨bs₁, n₁, b, n₂, bs₃, hxs, hx, hys, rfl⟩

/-- A failing step behind steps that succeed decides the error. -/
theorem mapM_append_cons_of_error {f : α → Claiming β} {xs : List α} {ys : List β} {x : α}
    {e : GenerationError} (h : xs.mapM f n = .ok (ys, next)) (hx : f x next = .error e)
    (rest : List α) : (xs ++ x :: rest).mapM f n = .error e := by
  rw [List.mapM_append, bind_of_ok h, List.mapM_cons]
  exact bind_of_error (bind_of_error hx _) _

/-- What every run of the stage from sound names gives: names that grow, and a result of which `Q`
holds. -/
def Gives (components : Components) (m : Claiming α) (Q : α → Names → Prop) : Prop :=
  ∀ (n : Names) (a : α) (next : Names), n.Sound components → m n = .ok (a, next) →
    n.Grows components next ∧ Q a next

/-- A stage on each item of a list gives what each of its steps gives. What a step says of its item
and result has to hold from then on, whatever names are given later. -/
theorem gives_mapM {components : Components} {f : α → Claiming β} {xs : List α}
    {Q : α → β → Names → Prop} (hstep : ∀ x ∈ xs, Gives components (f x) (Q x))
    (hmono : ∀ x y (n next : Names), n.Extends next → Q x y n → Q x y next) :
    Gives components (xs.mapM f) fun ys next => List.Forall₂ (fun x y => Q x y next) xs ys := by
  induction xs with
  | nil =>
      intro n ys next hn h
      rw [List.mapM_nil] at h
      obtain ⟨rfl, rfl⟩ := pure_eq_ok h
      exact ⟨Names.Grows.refl hn, List.Forall₂.nil⟩
  | cons x xs ih =>
      intro n ys next hn h
      rw [List.mapM_cons] at h
      obtain ⟨y, middle, hhead, h⟩ := bind_eq_ok h
      obtain ⟨ys', last, htail, h⟩ := bind_eq_ok h
      obtain ⟨rfl, rfl⟩ := pure_eq_ok h
      obtain ⟨hgrows, hQ⟩ := hstep x List.mem_cons_self n y middle hn hhead
      obtain ⟨hgrows', hQs⟩ := ih (fun x' hx' => hstep x' (List.mem_cons_of_mem x hx')) middle ys'
        last hgrows.sound htail
      have hQ' := hmono x y middle last hgrows'.extended hQ
      exact ⟨hgrows.trans hgrows', List.Forall₂.cons hQ' hQs⟩

/-! ## Results apart from names -/

/-- Some run of the stage gives the result. -/
def Yields (m : Claiming α) (a : α) : Prop := ∃ n next, m n = .ok (a, next)

theorem yields_of_ok {m : Claiming α} {a : α} (h : m n = .ok (a, next)) : Yields m a :=
  ⟨n, next, h⟩

theorem exists_yields_of_bind {m : Claiming α} {f : α → Claiming β} {b : β}
    (h : Yields (m >>= f) b) : ∃ a, Yields m a ∧ Yields (f a) b := by
  obtain ⟨n, next, h⟩ := h
  obtain ⟨a, middle, ha, hb⟩ := bind_eq_ok h
  exact ⟨a, yields_of_ok ha, yields_of_ok hb⟩

theorem eq_of_yields_pure {a b : α} (h : Yields (pure a) b) : a = b := by
  obtain ⟨n, next, h⟩ := h
  exact (pure_eq_ok h).1

theorem exists_yields_of_map {m : Claiming α} {f : α → β} {b : β} (h : Yields (f <$> m) b) :
    ∃ a, Yields m a ∧ f a = b := by
  obtain ⟨n, next, h⟩ := h
  obtain ⟨a, ha, hb⟩ := map_eq_ok h
  exact ⟨a, yields_of_ok ha, hb⟩

theorem eq_ok_of_yields_lift {x : Except GenerationError α} {a : α}
    (h : Yields (liftM x : Claiming α) a) : x = .ok a := by
  obtain ⟨n, next, h⟩ := h
  exact (lift_eq_ok h).1

theorem not_yields_throw {e : GenerationError} {a : α} : ¬Yields (throw e : Claiming α) a := by
  rintro ⟨n, next, h⟩
  cases h

/-- A stage on each item of a list yields what its steps yield. -/
theorem forall₂_of_yields_mapM {f : α → Claiming β} {xs : List α} {ys : List β}
    (h : Yields (xs.mapM f) ys) : List.Forall₂ (fun x y => Yields (f x) y) xs ys := by
  induction xs generalizing ys with
  | nil =>
      rw [← eq_of_yields_pure h]
      exact List.Forall₂.nil
  | cons x xs ih =>
      rw [List.mapM_cons] at h
      obtain ⟨y, hy, h⟩ := exists_yields_of_bind h
      obtain ⟨ys', hys, h⟩ := exists_yields_of_bind h
      rw [← eq_of_yields_pure h]
      exact List.Forall₂.cons hy (ih hys)

end Claiming

end TypedClient.Plan
