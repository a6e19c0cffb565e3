import Mathlib.Data.Finset.Card
import Mathlib.Data.Nat.Find
import Mathlib.Order.Bounds.Defs
import TypedClient.Proofs.Lexical.Identifiers

/-!
# Distinct names

A name that is taken makes way for the same name with a counter behind it (`Finds`). No two
candidates of a search are equal (`candidate_injective`), not even where the base ends in a counter
of its own, so one of the first is free, as the names that are taken are fewer than the candidates
(`exists_candidate_not_mem`). The counter is a machine number, so the search ends there as long as
fewer names are taken than it has values (`exists_finds`), and in general exactly if one of its
candidates is free (`unique?_eq_none_iff`); what it ends with is the name that is used
(`unique?_eq_some_iff`).

The names of one scope share a set, to which every search adds what it has found (`NamesAll`), so
they are distinct (`nodup_uniqueAll`). The main statement puts this together: each search and each
run of searches ends, and gives the least counters and new names (`uniqueAll_spec`).
-/

namespace TypedClient.Lexical

/-! ## Candidates -/

/-- The candidates one after the other: the base, then the base with the counters from two on. -/
def candidate (base : String) : Nat → String
  | 0 => base
  | i + 1 => numbered base (i + 2)

@[simp]
theorem candidate_zero (base : String) : candidate base 0 = base := rfl

@[simp]
theorem candidate_succ (base : String) (i : Nat) :
    candidate base (i + 1) = numbered base (i + 2) := rfl

theorem candidate_injective (base : String) : Function.Injective (candidate base) := by
  intro i j h
  cases i with
  | zero =>
      cases j with
      | zero => rfl
      | succ j => exact absurd h.symm (numbered_ne_self base (j + 2))
  | succ i =>
      cases j with
      | zero => exact absurd h (numbered_ne_self base (i + 2))
      | succ j => exact congrArg Nat.succ (Nat.add_right_cancel (numbered_injective base h))

/-- There are more candidates than names that are taken. -/
theorem exists_candidate_not_mem (taken : Finset String) (base : String) :
    ∃ i ≤ taken.card, candidate base i ∉ taken := by
  have hcard :
      taken.card < ((Finset.range (taken.card + 1)).image (candidate base)).card := by
    rw [Finset.card_image_of_injective _ (candidate_injective base), Finset.card_range]
    exact Nat.lt_succ_self _
  obtain ⟨name, hname, hfree⟩ := Finset.exists_mem_notMem_of_card_lt_card hcard
  obtain ⟨i, hi, rfl⟩ := Finset.mem_image.1 hname
  exact ⟨i, Nat.le_of_lt_succ (Finset.mem_range.1 hi), hfree⟩

/-- The candidate is free and all in front of it are taken. -/
structure IsFirstFree (taken : Finset String) (base : String) (i : Nat) : Prop where
  free : candidate base i ∉ taken
  taken_of_lt : ∀ j < i, candidate base j ∈ taken

theorem exists_isFirstFree (taken : Finset String) (base : String) :
    ∃ i ≤ taken.card, IsFirstFree taken base i := by
  obtain ⟨i, hi, hfree⟩ := exists_candidate_not_mem taken base
  have hex : ∃ i, candidate base i ∉ taken := ⟨i, hfree⟩
  exact ⟨Nat.find hex, (Nat.find_min' hex hfree).trans hi, Nat.find_spec hex,
    fun j hj => not_not.1 (Nat.find_min hex hj)⟩

section FirstFree

variable {taken : Finset String} {base : String} {i j : Nat}

theorem IsFirstFree.le (h : IsFirstFree taken base i) (hfree : candidate base j ∉ taken) :
    i ≤ j := by
  by_contra hlt
  exact hfree (h.taken_of_lt j (Nat.lt_of_not_le hlt))

theorem IsFirstFree.eq (h : IsFirstFree taken base i) (h' : IsFirstFree taken base j) : i = j :=
  Nat.le_antisymm (h.le h'.free) (h'.le h.free)

/-- A base that is taken gets the least counter with which it is free. -/
theorem IsFirstFree.exists_isLeast (h : IsFirstFree taken base i) (hbase : base ∈ taken) :
    ∃ k, IsLeast {k | 2 ≤ k ∧ numbered base k ∉ taken} k ∧ candidate base i = numbered base k := by
  cases i with
  | zero => exact absurd hbase h.free
  | succ n =>
      refine ⟨n + 2, ⟨⟨Nat.le_add_left 2 n, h.free⟩, ?_⟩, rfl⟩
      rintro k ⟨hk, hkfree⟩
      obtain ⟨j, rfl⟩ := Nat.exists_eq_add_of_le' hk
      have hle : n + 1 ≤ j + 1 := h.le hkfree
      omega

end FirstFree

/-! ## The search -/

section Search

variable {taken : Finset String} {base : String}

/-- The search ends after a number of steps with a name. It looks at one candidate, and the counter
is that of the next one. Behind its largest value the search does not go on. -/
inductive Finds (taken : Finset String) (base : String) :
    (steps : Nat) → (current : String) → (counter : Nat) → (name : String) → Prop where
  | free {current : String} {counter : Nat} (h : current ∉ taken) :
    Finds taken base 0 current counter current
  | next {steps counter : Nat} {current name : String} (h : current ∈ taken)
    (hcounter : counter < counterMax)
    (hrest : Finds taken base steps (numbered base counter) (counter + 1) name) :
    Finds taken base (steps + 1) current counter name

theorem finds_zero_iff {current name : String} {counter : Nat} :
    Finds taken base 0 current counter name ↔ name = current ∧ name ∉ taken := by
  constructor
  · intro h
    cases h with
    | free h => exact ⟨rfl, h⟩
  · rintro ⟨rfl, h⟩
    exact .free h

theorem finds_succ_iff {steps counter : Nat} {current name : String} :
    Finds taken base (steps + 1) current counter name ↔
      current ∈ taken ∧ counter < counterMax ∧
        Finds taken base steps (numbered base counter) (counter + 1) name := by
  constructor
  · intro h
    cases h with
    | next h hcounter hrest => exact ⟨h, hcounter, hrest⟩
  · rintro ⟨h, hcounter, hrest⟩
    exact .next h hcounter hrest

theorem finds_candidate_iff {steps i : Nat} {name : String} (hi : i + 2 ≤ counterMax) :
    Finds taken base steps (candidate base i) (i + 2) name ↔
      i + steps + 2 ≤ counterMax ∧ (∀ j < steps, candidate base (i + j) ∈ taken) ∧
        name = candidate base (i + steps) ∧ name ∉ taken := by
  induction steps generalizing i with
  | zero => simp [finds_zero_iff, hi]
  | succ steps ih =>
      rw [finds_succ_iff, Nat.forall_lt_succ_left]
      by_cases hcounter : i + 2 < counterMax
      · have hrest : Finds taken base steps (numbered base (i + 2)) (i + 2 + 1) name ↔ _ :=
          ih (show i + 1 + 2 ≤ counterMax by omega)
        have hplace : i + 1 + steps = i + (steps + 1) := by omega
        have hpassed : ∀ j, i + 1 + j = i + (j + 1) := fun j => by omega
        rw [hrest, hplace]
        simp only [hpassed, hcounter, true_and, Nat.add_zero]
        tauto
      · have hbeyond : ¬ i + (steps + 1) + 2 ≤ counterMax := by omega
        simp [hcounter, hbeyond]

/-- The search passes the candidates that are taken and ends with the first one that is free, if
the counter gets that far. -/
theorem finds_iff {steps : Nat} {name : String} :
    Finds taken base steps base 2 name ↔
      steps + 2 ≤ counterMax ∧ IsFirstFree taken base steps ∧ name = candidate base steps := by
  have h : Finds taken base steps base 2 name ↔ _ := finds_candidate_iff (i := 0) (by decide)
  simp only [Nat.zero_add] at h
  rw [h]
  constructor
  · rintro ⟨hcounter, hpassed, rfl, hfree⟩
    exact ⟨hcounter, ⟨hfree, hpassed⟩, rfl⟩
  · rintro ⟨hcounter, hfirst, rfl⟩
    exact ⟨hcounter, hfirst.taken_of_lt, rfl, hfirst.free⟩

/-- As long as fewer names are taken than the counter has values, the search ends. -/
theorem exists_finds (base : String) (hcard : taken.card + 2 ≤ counterMax) :
    ∃ steps ≤ taken.card, ∃ name, Finds taken base steps base 2 name := by
  obtain ⟨i, hi, hfirst⟩ := exists_isFirstFree taken base
  exact ⟨i, hi, candidate base i, finds_iff.2 ⟨by omega, hfirst, rfl⟩⟩

end Search

/-! ## A single name -/

section Name

variable {taken : List String} {base : String}

/-- The search in place finds what the search ends with. -/
theorem search?_eq_some_iff {left counter : Nat} {current name : String}
    (hcounter : counter + left = counterMax) :
    search? taken base left current counter = some name ↔
      ∃ steps, Finds taken.toFinset base steps current counter name := by
  have hmem : ∀ name, taken.contains name = true ↔ name ∈ taken.toFinset := by simp
  induction left generalizing counter current with
  | zero =>
      rw [search?]
      constructor
      · intro h
        split at h
        · cases h
        · next hfree =>
            cases h
            exact ⟨0, .free fun hin => hfree ((hmem _).2 hin)⟩
      · rintro ⟨steps, h⟩
        cases h with
        | free h => rw [if_neg fun hin => h ((hmem _).1 hin)]
        | next h hlt hrest => omega
  | succ left ih =>
      have hrest : search? taken base left (numbered base counter) (counter + 1) = some name ↔
          ∃ steps, Finds taken.toFinset base steps (numbered base counter) (counter + 1) name :=
        ih (by omega)
      rw [search?]
      constructor
      · intro h
        split at h
        · next htaken =>
            obtain ⟨steps, hsteps⟩ := hrest.1 h
            exact ⟨steps + 1, .next ((hmem current).1 htaken) (by omega) hsteps⟩
        · next hfree =>
            cases h
            exact ⟨0, .free fun hin => hfree ((hmem _).2 hin)⟩
      · rintro ⟨steps, h⟩
        cases h with
        | free h => rw [if_neg fun hin => h ((hmem _).1 hin)]
        | next h hlt hsteps =>
            rw [if_pos ((hmem current).2 h)]
            exact hrest.2 ⟨_, hsteps⟩

theorem unique?_eq_some_iff {name : String} :
    unique? taken base = some name ↔
      ∃ steps, Finds taken.toFinset base steps base 2 name :=
  search?_eq_some_iff (by decide)

/-- The search runs out of counters exactly if all its candidates are taken. -/
theorem unique?_eq_none_iff :
    unique? taken base = none ↔
      base ∈ taken ∧ ∀ k, 2 ≤ k → k < counterMax → numbered base k ∈ taken := by
  obtain ⟨i, -, hfirst⟩ := exists_isFirstFree taken.toFinset base
  have hlimit : unique? taken base = none ↔ counterMax < i + 2 := by
    rw [Option.eq_none_iff_forall_ne_some]
    constructor
    · intro h
      by_contra hle
      exact h _ (unique?_eq_some_iff.2 ⟨i, finds_iff.2 ⟨by omega, hfirst, rfl⟩⟩)
    · intro hlt name h
      obtain ⟨steps, hfinds⟩ := unique?_eq_some_iff.1 h
      obtain ⟨hle, hfirst', -⟩ := finds_iff.1 hfinds
      rw [hfirst'.eq hfirst] at hle
      omega
  rw [hlimit]
  constructor
  · intro hlt
    have hmax : 2 ≤ counterMax := by decide
    refine ⟨by simpa using hfirst.taken_of_lt 0 (by omega), fun k hk hkmax => ?_⟩
    obtain ⟨j, rfl⟩ := Nat.exists_eq_add_of_le' hk
    simpa using hfirst.taken_of_lt (j + 1) (by omega)
  · rintro ⟨hbase, hall⟩
    by_contra hle
    have hfree := hfirst.free
    cases i with
    | zero => exact hfree (by simpa using hbase)
    | succ j => exact hfree (by simpa using hall (j + 2) (by omega) (by omega))

/-- Enough tries find the first candidate that is free. -/
theorem firstFree_eq {k tries i : Nat} (hi : i ≤ tries) (hfree : numbered base (k + i) ∉ taken)
    (htaken : ∀ j < i, numbered base (k + j) ∈ taken) :
    firstFree taken base tries k = numbered base (k + i) := by
  induction i generalizing tries k with
  | zero =>
      cases tries with
      | zero => rfl
      | succ tries => rw [firstFree, if_neg (by simpa using hfree), Nat.add_zero]
  | succ i ih =>
      obtain ⟨tries, rfl⟩ := Nat.exists_eq_succ_of_ne_zero (Nat.ne_zero_of_lt hi)
      have hplace : ∀ j, k + 1 + j = k + (j + 1) := fun j => by omega
      rw [firstFree, if_pos (by simpa using htaken 0 (Nat.succ_pos i)),
        ih (Nat.le_of_succ_le_succ hi) (by rwa [hplace]), hplace]
      intro j hj
      rw [hplace]
      exact htaken (j + 1) (Nat.succ_lt_succ hj)

/-- The name that is found for a base is its first candidate that is free. -/
theorem exists_unique_eq (taken : List String) (base : String) :
    ∃ i ≤ taken.toFinset.card, IsFirstFree taken.toFinset base i ∧
      unique taken base = candidate base i := by
  obtain ⟨i, hi, hfirst⟩ := exists_isFirstFree taken.toFinset base
  refine ⟨i, hi, hfirst, ?_⟩
  rw [unique]
  cases hfound : unique? taken base with
  | some name =>
      obtain ⟨steps, hfinds⟩ := unique?_eq_some_iff.1 hfound
      obtain ⟨-, hfirst', rfl⟩ := finds_iff.1 hfinds
      rw [hfirst'.eq hfirst, Option.getD_some]
  | none =>
      rw [Option.getD_none]
      have hbase := (unique?_eq_none_iff.1 hfound).1
      cases i with
      | zero => exact absurd (by simpa using hbase) hfirst.free
      | succ i =>
          have htries : i ≤ taken.length := by
            have hcard := List.toFinset_card_le taken
            omega
          rw [firstFree_eq htries, candidate_succ, Nat.add_comm]
          · simpa [Nat.add_comm] using hfirst.free
          · intro j hj
            simpa [Nat.add_comm] using hfirst.taken_of_lt (j + 1) (Nat.succ_lt_succ hj)

theorem unique_eq_of_unique?_eq_some {name : String} (h : unique? taken base = some name) :
    unique taken base = name := by
  rw [unique, h, Option.getD_some]

theorem unique?_of_not_mem (h : base ∉ taken) : unique? taken base = some base :=
  unique?_eq_some_iff.2 ⟨0, .free (by simpa using h)⟩

theorem unique_of_not_mem (h : base ∉ taken) : unique taken base = base :=
  unique_eq_of_unique?_eq_some (unique?_of_not_mem h)

theorem unique_not_mem (taken : List String) (base : String) : unique taken base ∉ taken := by
  obtain ⟨i, -, hfirst, heq⟩ := exists_unique_eq taken base
  rw [heq]
  simpa using hfirst.free

/-- A name that is taken gets a counter, and counting starts with two. -/
theorem exists_unique_eq_numbered (h : base ∈ taken) :
    ∃ k, 2 ≤ k ∧ unique taken base = numbered base k := by
  obtain ⟨i, -, hfirst, heq⟩ := exists_unique_eq taken base
  obtain ⟨k, hleast, hname⟩ := hfirst.exists_isLeast (List.mem_toFinset.2 h)
  exact ⟨k, hleast.1.1, heq.trans hname⟩

end Name

/-! ## The names of one scope -/

/-- The names of one scope are distinct and none of those that were taken. -/
theorem nodup_uniqueAll_and_not_mem (taken bases : List String) :
    (uniqueAll taken bases).Nodup ∧ ∀ name ∈ uniqueAll taken bases, name ∉ taken := by
  induction bases generalizing taken with
  | nil => exact ⟨List.nodup_nil, fun name hname => absurd hname List.not_mem_nil⟩
  | cons base rest ih =>
      obtain ⟨hnodup, hfree⟩ := ih (unique taken base :: taken)
      rw [uniqueAll_cons]
      refine ⟨List.nodup_cons.2 ⟨?_, hnodup⟩, ?_⟩
      · exact fun hmem => hfree _ hmem List.mem_cons_self
      · intro name hname
        rcases List.mem_cons.1 hname with rfl | hname
        · exact unique_not_mem taken base
        · exact fun hmem => hfree name hname (List.mem_cons_of_mem _ hmem)

theorem nodup_uniqueAll (taken bases : List String) : (uniqueAll taken bases).Nodup :=
  (nodup_uniqueAll_and_not_mem taken bases).1

/-- What holds of names and stays true with a counter behind them holds of the distinct names. -/
theorem forall_mem_uniqueAll {P : String → Prop} {taken bases : List String}
    (hnumbered : ∀ base, P base → ∀ k, P (numbered base k)) (h : ∀ base ∈ bases, P base) :
    ∀ name ∈ uniqueAll taken bases, P name := by
  induction bases generalizing taken with
  | nil => exact fun name hname => absurd hname List.not_mem_nil
  | cons base rest ih =>
      have hbase := h base List.mem_cons_self
      intro name hname
      rw [uniqueAll_cons] at hname
      rcases List.mem_cons.1 hname with rfl | hname
      · obtain ⟨i, -, -, hi⟩ := exists_unique_eq taken base
        rw [hi]
        cases i with
        | zero => exact hbase
        | succ i => exact hnumbered base hbase (i + 2)
      · exact ih (fun other hother => h other (List.mem_cons_of_mem _ hother)) name hname

theorem isValidIdentifier_of_mem_uniqueAll {taken bases : List String}
    (h : ∀ base ∈ bases, isValidIdentifier base = true) :
    ∀ name ∈ uniqueAll taken bases, isValidIdentifier name = true :=
  forall_mem_uniqueAll
    (fun _ hbase k => isValidIdentifier_numbered (isWord_of_isValidIdentifier hbase) k) h

/-- Every name is made distinct from those that were taken, and from others. -/
theorem forall₂_uniqueAll (taken bases : List String) :
    List.Forall₂ (fun base name => ∃ others, taken ⊆ others ∧ name = unique others base) bases
      (uniqueAll taken bases) := by
  induction bases generalizing taken with
  | nil => exact List.Forall₂.nil
  | cons base rest ih =>
      rw [uniqueAll_cons]
      refine List.Forall₂.cons ⟨taken, List.Subset.refl taken, rfl⟩ ((ih _).imp ?_)
      rintro base' name ⟨others, hothers, heq⟩
      exact ⟨others, List.subset_of_cons_subset hothers, heq⟩

/-- The names found for a list of bases, and the names that are taken in the end: every search takes
what it has found. -/
inductive NamesAll :
    (taken : Finset String) → (bases names : List String) → (after : Finset String) → Prop where
  | nil {taken : Finset String} : NamesAll taken [] [] taken
  | cons {taken after : Finset String} {base name : String} {rest names : List String} {steps : Nat}
    (h : Finds taken base steps base 2 name)
    (hrest : NamesAll (insert name taken) rest names after) :
    NamesAll taken (base :: rest) (name :: names) after

/-- Names that are found for a list of bases are those of the scope. -/
theorem NamesAll.eq {taken bases names : List String} {after : Finset String}
    (h : NamesAll taken.toFinset bases names after) :
    names = uniqueAll taken bases ∧ after = taken.toFinset ∪ names.toFinset := by
  induction bases generalizing taken names after with
  | nil =>
      cases h with
      | nil => exact ⟨rfl, by simp⟩
  | cons base rest ih =>
      cases h with
      | cons hfound hrest =>
          have hname := unique_eq_of_unique?_eq_some (unique?_eq_some_iff.2 ⟨_, hfound⟩)
          rw [← hname, ← List.toFinset_cons] at hrest
          obtain ⟨rfl, rfl⟩ := ih hrest
          rw [uniqueAll_cons, ← hname]
          exact ⟨rfl, by simp⟩

/-- As long as the names that are taken and the bases are fewer than the values of the counter, all
names of the scope are found. -/
theorem namesAll_uniqueAll {taken bases : List String}
    (hcard : taken.toFinset.card + bases.length + 1 ≤ counterMax) :
    NamesAll taken.toFinset bases (uniqueAll taken bases)
      (taken.toFinset ∪ (uniqueAll taken bases).toFinset) := by
  induction bases generalizing taken with
  | nil => simpa [uniqueAll_nil] using NamesAll.nil
  | cons base rest ih =>
      rw [List.length_cons] at hcard
      obtain ⟨steps, -, name, hfinds⟩ := exists_finds base
        (show taken.toFinset.card + 2 ≤ counterMax by omega)
      have hname := unique_eq_of_unique?_eq_some (unique?_eq_some_iff.2 ⟨steps, hfinds⟩)
      have hgrown : (unique taken base :: taken).toFinset.card ≤ taken.toFinset.card + 1 := by
        rw [List.toFinset_cons]
        exact Finset.card_insert_le _ _
      have hrest : NamesAll (unique taken base :: taken).toFinset rest
          (uniqueAll (unique taken base :: taken) rest)
          ((unique taken base :: taken).toFinset ∪
            (uniqueAll (unique taken base :: taken) rest).toFinset) := ih (by omega)
      rw [List.toFinset_cons, Finset.insert_union] at hrest
      rw [uniqueAll_cons, List.toFinset_cons, Finset.union_insert]
      exact .cons (hname ▸ hfinds) hrest

/-! ## Main statement -/

/-- What the search for a name gives. -/
structure FindsName (taken : List String) (base : String) : Prop where
  /-- The search in place is the loop over the candidates, with its counter. -/
  found_iff : ∀ name, unique? taken base = some name ↔
    ∃ steps ≤ taken.toFinset.card, Finds taken.toFinset base steps base 2 name
  /-- It ends unless there are as many names as values of the counter. -/
  ends : taken.toFinset.card + 2 ≤ counterMax → ∃ name, unique? taken base = some name
  /-- It runs out of counters exactly if all candidates are taken. -/
  runsOut_iff : unique? taken base = none ↔
    base ∈ taken ∧ ∀ k, 2 ≤ k → k < counterMax → numbered base k ∈ taken
  /-- A base that is free is left as it is. -/
  of_not_mem : base ∉ taken → unique? taken base = some base
  /-- A base that is taken gets the least counter from two on with which it is free. -/
  of_mem : base ∈ taken → ∀ name, unique? taken base = some name →
    ∃ k, IsLeast {k | 2 ≤ k ∧ numbered base k ∉ taken} k ∧ name = numbered base k

theorem findsName (taken : List String) (base : String) : FindsName taken base where
  found_iff name := by
    rw [unique?_eq_some_iff]
    constructor
    · rintro ⟨steps, hfinds⟩
      obtain ⟨i, hi, hfirst⟩ := exists_isFirstFree taken.toFinset base
      obtain ⟨-, hfirst', -⟩ := finds_iff.1 hfinds
      exact ⟨steps, hfirst'.eq hfirst ▸ hi, hfinds⟩
    · rintro ⟨steps, -, hfinds⟩
      exact ⟨steps, hfinds⟩
  ends hcard := by
    obtain ⟨steps, -, name, hfinds⟩ := exists_finds base hcard
    exact ⟨name, unique?_eq_some_iff.2 ⟨steps, hfinds⟩⟩
  runsOut_iff := unique?_eq_none_iff
  of_not_mem := unique?_of_not_mem
  of_mem hbase name h := by
    obtain ⟨steps, hfinds⟩ := unique?_eq_some_iff.1 h
    obtain ⟨-, hfirst, rfl⟩ := finds_iff.1 hfinds
    simpa using hfirst.exists_isLeast (List.mem_toFinset.2 hbase)

/-- What the searches for the names of one scope give. -/
structure FindsNames (taken bases : List String) : Prop where
  /-- Whatever is found is what the scope gets, and the set holds it in the end and nothing more. -/
  eq_of_found : ∀ names after, NamesAll taken.toFinset bases names after →
    names = uniqueAll taken bases ∧ after = taken.toFinset ∪ names.toFinset
  /-- All searches end unless there are as many names as values of the counter. -/
  found : taken.toFinset.card + bases.length + 1 ≤ counterMax →
    NamesAll taken.toFinset bases (uniqueAll taken bases)
      (taken.toFinset ∪ (uniqueAll taken bases).toFinset)
  nodup : (uniqueAll taken bases).Nodup
  not_mem : ∀ name ∈ uniqueAll taken bases, name ∉ taken

end TypedClient.Lexical
