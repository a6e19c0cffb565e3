import Mathlib.Tactic.Common
import TypedClient.OpenApi.Reading

/-!
# Chains of references

What a value stands for is at the end of the chain of references that starts there
(`followFrom_eq_ok_iff`). Whether there is an end does not matter before the limit is counted: a
look at a value comes before the step to the next one, so the limit holds for the values that are
looked at, and the references between them are one fewer. A chain of seven references is followed to
its end, one of eight is not, and neither is one that comes back to itself (`resolve_spec`).
-/

namespace TypedClient.OpenApi

/-! ## References -/

/-- The reference points into the document, where there is nothing. -/
def IsDangling (root : Json) (reference : String) : Prop :=
  ∃ path, reference.toList = '#' :: path ∧ root.pointer? path = none

/-- The reference leaves the document. -/
def IsExternal (reference : String) : Prop := reference.toList.head? ≠ some '#'

/-- The value is a reference to the other one. -/
def RefersTo (root v next : Json) : Prop :=
  ∃ reference, reference? v = some reference ∧ target root reference = .ok next

/-- The chain of references from the value leads to the other one after `n` of them. -/
inductive Chain (root : Json) : (n : Nat) → Json → Json → Prop where
  | nil (v : Json) : Chain root 0 v v
  | cons {n : Nat} {v next w : Json} (h : RefersTo root v next) (hrest : Chain root n next w) :
      Chain root (n + 1) v w

section Targets

variable {root v next w : Json} {reference : String} {e : GenerationError}

theorem target_eq_error_iff : target root reference = .error e ↔
    (e = .unresolved (.dangling reference) ∧ IsDangling root reference) ∨
      (e = .unresolved (.external reference) ∧ IsExternal reference) := by
  unfold target IsDangling IsExternal
  split
  · next path hpath =>
      cases hvalue : root.pointer? path <;> simp [hpath, hvalue, eq_comm]
  · next hpath =>
      have hhead : reference.toList.head? ≠ some '#' := by
        intro hhead
        obtain ⟨path, hlist⟩ := List.head?_eq_some_iff.1 hhead
        exact hpath path hlist
      constructor
      · intro heq
        exact Or.inr ⟨(Except.error.inj heq).symm, hhead⟩
      · rintro (⟨-, path, hlist, -⟩ | ⟨rfl, -⟩)
        · exact absurd hlist (hpath path)
        · rfl

theorem RefersTo.unique (h : RefersTo root v next) (h' : RefersTo root v w) : next = w := by
  obtain ⟨reference, hreference, htarget⟩ := h
  obtain ⟨reference', hreference', htarget'⟩ := h'
  rw [hreference, Option.some.injEq] at hreference'
  subst hreference'
  rw [htarget] at htarget'
  exact Except.ok.inj htarget'

end Targets

/-! ## Chains -/

section Chains

variable {root v next w : Json}

theorem chain_succ_iff {n : Nat} :
    Chain root (n + 1) v w ↔ ∃ next, RefersTo root v next ∧ Chain root n next w := by
  constructor
  · intro h
    cases h with
    | cons h hrest => exact ⟨_, h, hrest⟩
  · rintro ⟨next, h, hrest⟩
    exact .cons h hrest

theorem Chain.append {m n : Nat} {u : Json} (h : Chain root m u v) (h' : Chain root n v w) :
    Chain root (m + n) u w := by
  induction h with
  | nil v => rwa [Nat.zero_add]
  | cons h _ ih =>
      rw [Nat.succ_add]
      exact .cons h (ih h')

/-- A chain has a chain of any smaller length in front. -/
theorem Chain.exists_of_le {m n : Nat} (h : Chain root n v w) (hm : m ≤ n) :
    ∃ u, Chain root m v u := by
  induction h generalizing m with
  | nil v =>
      obtain rfl := Nat.le_zero.1 hm
      exact ⟨v, .nil v⟩
  | cons h _ ih =>
      cases m with
      | zero => exact ⟨_, .nil _⟩
      | succ m =>
          obtain ⟨u, hu⟩ := ih (Nat.le_of_succ_le_succ hm)
          exact ⟨u, .cons h hu⟩

/-- A chain that comes back to itself has any length. -/
theorem Chain.exists_of_cycle {m n : Nat} (h : Chain root m v w) (hcycle : Chain root (n + 1) w w)
    (length : Nat) : ∃ u, Chain root length v u := by
  have hturns : ∀ turns : Nat, Chain root (turns * (n + 1)) w w := by
    intro turns
    induction turns with
    | zero =>
        rw [Nat.zero_mul]
        exact .nil w
    | succ turns ih =>
        rw [Nat.succ_mul]
        exact ih.append hcycle
  refine (h.append (hturns length)).exists_of_le ?_
  calc length ≤ length * (n + 1) := Nat.le_mul_of_pos_right length n.succ_pos
    _ ≤ m + length * (n + 1) := Nat.le_add_left _ m

end Chains

/-! ## Following a chain -/

/-- The value is a reference that leads nowhere. -/
def IsBroken (root v : Json) (e : GenerationError) : Prop :=
  ∃ reference, reference? v = some reference ∧ target root reference = .error e

section Following

variable {root v next w : Json} {e : GenerationError}

theorem refersTo_or_ends (root v : Json) :
    (∃ next, RefersTo root v next) ∨ reference? v = none ∨ ∃ e, IsBroken root v e := by
  cases hreference : reference? v with
  | none => exact Or.inr (Or.inl rfl)
  | some reference =>
      cases htarget : target root reference with
      | ok next => exact Or.inl ⟨next, reference, hreference, htarget⟩
      | error e => exact Or.inr (Or.inr ⟨e, reference, hreference, htarget⟩)

theorem RefersTo.reference?_ne (h : RefersTo root v next) : reference? v ≠ none := by
  obtain ⟨reference, hreference, -⟩ := h
  simp [hreference]

theorem RefersTo.not_isBroken (h : RefersTo root v next) : ¬IsBroken root v e := by
  obtain ⟨reference, hreference, htarget⟩ := h
  rintro ⟨reference', hreference', htarget'⟩
  rw [hreference, Option.some.injEq] at hreference'
  subst hreference'
  rw [htarget] at htarget'
  cases htarget'

theorem IsBroken.eq {e' : GenerationError} (h : IsBroken root v e) (h' : IsBroken root v e') :
    e = e' := by
  obtain ⟨reference, hreference, htarget⟩ := h
  obtain ⟨reference', hreference', htarget'⟩ := h'
  rw [hreference, Option.some.injEq] at hreference'
  subst hreference'
  rw [htarget] at htarget'
  exact Except.error.inj htarget'

theorem followFrom_of_refersTo (h : RefersTo root v next) (hops : Nat) :
    followFrom root (hops + 1) v = followFrom root hops next := by
  obtain ⟨reference, hreference, htarget⟩ := h
  exact followFrom_of_target hreference htarget hops

theorem followFrom_of_isBroken (h : IsBroken root v e) (hops : Nat) :
    followFrom root (hops + 1) v = .error e := by
  obtain ⟨reference, hreference, htarget⟩ := h
  simp only [followFrom, hreference, htarget]

/-- The values that are looked at are the first one and those behind it. -/
theorem exists_lt_succ_chain_iff {hops : Nat} : (∃ n < hops + 1, Chain root n v w) ↔
    w = v ∨ ∃ next, RefersTo root v next ∧ ∃ n < hops, Chain root n next w := by
  constructor
  · rintro ⟨n, hn, hchain⟩
    cases hchain with
    | nil => exact Or.inl rfl
    | cons h hrest => exact Or.inr ⟨_, h, _, Nat.lt_of_succ_lt_succ hn, hrest⟩
  · rintro (rfl | ⟨next, h, n, hn, hrest⟩)
    · exact ⟨0, Nat.succ_pos hops, .nil w⟩
    · exact ⟨n + 1, Nat.succ_lt_succ hn, .cons h hrest⟩

/-- A chain is followed to its end if its end is among the values that are looked at. -/
theorem followFrom_eq_ok_iff {hops : Nat} : followFrom root hops v = .ok w ↔
    reference? w = none ∧ ∃ n < hops, Chain root n v w := by
  induction hops generalizing v with
  | zero => simp [followFrom_zero]
  | succ hops ih =>
      rw [exists_lt_succ_chain_iff]
      rcases refersTo_or_ends root v with ⟨next, h⟩ | hnone | ⟨e, h⟩
      · rw [followFrom_of_refersTo h, ih]
        constructor
        · exact fun ⟨hw, hchain⟩ => ⟨hw, Or.inr ⟨next, h, hchain⟩⟩
        · rintro ⟨hw, rfl | ⟨next', h', hchain⟩⟩
          · exact absurd hw h.reference?_ne
          · rw [h.unique h']
            exact ⟨hw, hchain⟩
      · rw [followFrom_of_reference?_eq_none hnone, Except.ok.injEq]
        constructor
        · rintro rfl
          exact ⟨hnone, Or.inl rfl⟩
        · rintro ⟨-, rfl | ⟨next, h, -⟩⟩
          · rfl
          · exact absurd hnone h.reference?_ne
      · rw [followFrom_of_isBroken h]
        constructor
        · intro heq
          cases heq
        · rintro ⟨hw, rfl | ⟨next, h', -⟩⟩
          · obtain ⟨reference, hreference, -⟩ := h
            rw [hw] at hreference
            cases hreference
          · exact absurd h h'.not_isBroken

/-- A chain is given up where it is broken, or where it has as many references as values are looked
at. -/
theorem followFrom_eq_error_iff {hops : Nat} : followFrom root hops v = .error e ↔
    (e = .unresolved (.deepChain maxHops) ∧ ∃ w, Chain root hops v w) ∨
      ∃ w, (∃ n < hops, Chain root n v w) ∧ IsBroken root w e := by
  induction hops generalizing v with
  | zero =>
      have hself : ∃ w, Chain root 0 v w := ⟨v, .nil v⟩
      simp [followFrom_zero, hself, eq_comm]
  | succ hops ih =>
      simp only [exists_lt_succ_chain_iff, chain_succ_iff]
      rcases refersTo_or_ends root v with ⟨next, h⟩ | hnone | ⟨e', h⟩
      · rw [followFrom_of_refersTo h, ih]
        constructor
        · rintro (⟨he, w, hchain⟩ | ⟨w, hchain, hbroken⟩)
          · exact Or.inl ⟨he, w, next, h, hchain⟩
          · exact Or.inr ⟨w, Or.inr ⟨next, h, hchain⟩, hbroken⟩
        · rintro (⟨he, w, next', h', hchain⟩ | ⟨w, rfl | ⟨next', h', hchain⟩, hbroken⟩)
          · rw [h.unique h']
            exact Or.inl ⟨he, w, hchain⟩
          · exact absurd hbroken h.not_isBroken
          · rw [h.unique h']
            exact Or.inr ⟨w, hchain, hbroken⟩
      · rw [followFrom_of_reference?_eq_none hnone]
        constructor
        · intro heq
          cases heq
        · rintro (⟨-, w, next, h, -⟩ | ⟨w, rfl | ⟨next, h, -⟩, reference, hreference, -⟩)
          · exact absurd hnone h.reference?_ne
          · rw [hnone] at hreference
            cases hreference
          · exact absurd hnone h.reference?_ne
      · rw [followFrom_of_isBroken h, Except.error.injEq]
        constructor
        · rintro rfl
          exact Or.inr ⟨v, Or.inl rfl, h⟩
        · rintro (⟨-, w, next, h', -⟩ | ⟨w, rfl | ⟨next, h', -⟩, hbroken⟩)
          · exact absurd h h'.not_isBroken
          · exact h.eq hbroken
          · exact absurd h h'.not_isBroken

end Following

/-- A value stands for the end of its chain of references if the chain has fewer references than
values are looked at, so never for a reference. Otherwise the chain is too long, which one that
comes back to itself always is, or some reference in it leads nowhere. -/
theorem resolve_spec (root v : Json) :
    (∀ w, resolve root v = .ok w ↔ reference? w = none ∧ ∃ n < maxHops, Chain root n v w) ∧
    (∀ e, resolve root v = .error e ↔
      (e = .unresolved (.deepChain maxHops) ∧ ∃ w, Chain root maxHops v w) ∨
      ∃ n < maxHops, ∃ w reference, Chain root n v w ∧ reference? w = some reference ∧
        ((e = .unresolved (.dangling reference) ∧ IsDangling root reference) ∨
          (e = .unresolved (.external reference) ∧ IsExternal reference))) ∧
    ∀ m n w, Chain root m v w → Chain root (n + 1) w w →
      resolve root v = .error (.unresolved (.deepChain maxHops)) := by
  refine ⟨fun w => followFrom_eq_ok_iff, fun e => ?_, fun m n w h hcycle => ?_⟩
  · rw [resolve, followFrom_eq_error_iff]
    refine or_congr_right ?_
    simp only [← target_eq_error_iff]
    constructor
    · rintro ⟨w, ⟨n, hn, hchain⟩, reference, hreference, htarget⟩
      exact ⟨n, hn, w, reference, hchain, hreference, htarget⟩
    · rintro ⟨n, hn, w, reference, hchain, hreference, htarget⟩
      exact ⟨w, ⟨n, hn, hchain⟩, reference, hreference, htarget⟩
  · exact followFrom_eq_error_iff.2 (Or.inl ⟨rfl, h.exists_of_cycle hcycle maxHops⟩)

/-! ## A ladder of references -/

/-- A reference to one of the rungs. -/
def rung (name : String) : Json := .object [("$ref", .string ("#/rungs/" ++ name))]

/-- What the last rung holds. -/
def operationItem : Json := .object [("get", .object [("operationId", .string "x")])]

/-- A document in which the only path leads over eight references to an operation. One rung leads to
itself, one to nothing and one out of the document. -/
def ladder : Json := .object [
  ("paths", .object [("/a", rung "1")]),
  ("components", .object [("schemas", .object [])]),
  ("rungs", .object [
    ("1", rung "2"), ("2", rung "3"), ("3", rung "4"), ("4", rung "5"), ("5", rung "6"),
    ("6", rung "7"), ("7", rung "8"),
    ("8", operationItem),
    ("loop", rung "loop"),
    ("gap", rung "9"),
    ("out", .object [("$ref", .string "other.json")])])]

theorem refersTo_rung (name : String) {next : Json}
    (h : target ladder ("#/rungs/" ++ name) = .ok next) : RefersTo ladder (rung name) next :=
  ⟨_, rfl, h⟩

theorem chain_rungs : Chain ladder 7 (rung "2") operationItem :=
  .cons (refersTo_rung _ rfl) <| .cons (refersTo_rung _ rfl) <| .cons (refersTo_rung _ rfl) <|
  .cons (refersTo_rung _ rfl) <| .cons (refersTo_rung _ rfl) <| .cons (refersTo_rung _ rfl) <|
  .cons (refersTo_rung _ rfl) (.nil _)

theorem resolve_spec_ladder :
    (Chain ladder 7 (rung "2") operationItem ∧
      resolve ladder (rung "2") = .ok operationItem) ∧
    (Chain ladder 1 (rung "loop") (rung "loop") ∧
      resolve ladder (rung "loop") = .error (.unresolved (.deepChain 8))) ∧
    resolve ladder (rung "gap") = .error (.unresolved (.dangling "#/rungs/9")) ∧
    resolve ladder (rung "out") = .error (.unresolved (.external "other.json")) := by
  have hloop : Chain ladder 1 (rung "loop") (rung "loop") := .cons (refersTo_rung _ rfl) (.nil _)
  refine ⟨⟨chain_rungs, ((resolve_spec ladder _).1 _).2 ⟨rfl, 7, by decide, chain_rungs⟩⟩,
    ⟨hloop, (resolve_spec ladder _).2.2 0 0 _ (.nil _) hloop⟩, ?_, ?_⟩
  · refine ((resolve_spec ladder _).2.1 _).2 (Or.inr ⟨1, by decide, rung "9", "#/rungs/9", ?_, rfl,
      Or.inl ⟨rfl, _, rfl, rfl⟩⟩)
    exact .cons (refersTo_rung _ rfl) (.nil _)
  · have hexternal : IsExternal "other.json" := by
      unfold IsExternal
      decide
    refine ((resolve_spec ladder _).2.1 _).2 (Or.inr ⟨1, by decide,
      .object [("$ref", .string "other.json")], "other.json", ?_, rfl, Or.inr ⟨rfl, hexternal⟩⟩)
    exact .cons (refersTo_rung _ rfl) (.nil _)

theorem resolve_eightReferences :
    (Chain ladder maxHops (rung "1") operationItem ∧ reference? operationItem = none) ∧
    resolve ladder (rung "1") = .error (.unresolved (.deepChain 8)) ∧
    Document.ofJson ladder = .error (.unresolved (.deepChain 8)) ∧
    ¬∀ root v w n, n ≤ maxHops → Chain root n v w → reference? w = none →
      resolve root v = .ok w := by
  have hchain : Chain ladder maxHops (rung "1") operationItem :=
    .cons (refersTo_rung _ rfl) chain_rungs
  have herror : resolve ladder (rung "1") = .error (.unresolved (.deepChain 8)) := rfl
  refine ⟨⟨hchain, rfl⟩, herror, rfl, fun hall => ?_⟩
  rw [hall _ _ _ _ (Nat.le_refl _) hchain rfl] at herror
  cases herror

end TypedClient.OpenApi
