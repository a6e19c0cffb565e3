import TypedClient.Proofs.Lexical.SnakeCase

/-!
# Capitals in front

Class names are capitalised, so none of them begins with a lower-case letter of ASCII. A segment
that begins with an upper-case character is kept, and of any other the first character is put into
its upper-case form, which never begins with such a letter (`startsLower_uppercase`). What makes a
name valid brings none in front either (`startsLower_sanitize`).
-/

namespace TypedClient.Text

/-! ## Upper-case forms -/

theorem mapCase_ne_nil {shifts : List Shift} {expansions : List (Nat × List Nat)}
    (h : ∀ e ∈ expansions, e.2 ≠ []) (c : Char) : mapCase shifts expansions c ≠ [] := by
  unfold mapCase
  split
  · simp
  · split
    · next ns hns =>
        obtain ⟨_, _, heq, -⟩ := List.lookup_eq_some_iff.1 hns
        have hmem : (c.toNat, ns) ∈ expansions := by simp [heq]
        simpa using h _ hmem
    · simp

theorem uppercase_ne_nil (c : Char) : uppercase c ≠ [] := by
  unfold uppercase
  split
  · simp
  · exact mapCase_ne_nil (by decide) c

theorem isLower_iff {c : Char} : c.isLower = true ↔ 0x61 ≤ c.toNat ∧ c.toNat ≤ 0x7A := by
  change (decide (0x61 ≤ c.val) && decide (c.val ≤ 0x7A)) = true ↔ _
  rw [Bool.and_eq_true, decide_eq_true_iff, decide_eq_true_iff]
  exact Iff.rfl

theorem isLower_eq_false_of_le {c : Char} (h : 0x80 ≤ c.toNat) : c.isLower = false := by
  rw [Bool.eq_false_iff, ne_eq, isLower_iff]
  omega

/-- The lower-case letters of ASCII. -/
def lowerRun : Run := ⟨0x61, 0x7A, 1⟩

/-- A character that is made from a number is of that number, or else of zero. -/
theorem isLower_ofNat_eq_false {n : Nat} (h : lowerRun.contains n = false) :
    (Char.ofNat n).isLower = false := by
  by_cases hvalid : n.isValidChar
  · have hnumber : (Char.ofNat n).toNat = n := by
      rw [Char.ofNat, dif_pos hvalid]
      rfl
    rw [Bool.eq_false_iff, ne_eq, isLower_iff, hnumber]
    rintro ⟨hfirst, hlast⟩
    simp [Run.contains, lowerRun, hfirst, hlast, Nat.mod_one] at h
  · have hzero : Char.ofNat n = '\x00' := by
      rw [Char.ofNat, dif_neg hvalid]
      rfl
    rw [hzero]
    decide

/-- Whether the text begins with a lower-case letter of ASCII. -/
def startsLower (cs : List Char) : Bool := cs.head?.any Char.isLower

theorem startsLower_append {cs ds : List Char} (hcs : startsLower cs = false)
    (hds : startsLower ds = false) : startsLower (cs ++ ds) = false := by
  cases cs with
  | nil => exact hds
  | cons c cs => exact hcs

theorem startsLower_append_of_ne_nil {cs : List Char} (hne : cs ≠ []) (ds : List Char) :
    startsLower (cs ++ ds) = startsLower cs := by
  cases cs with
  | nil => exact absurd rfl hne
  | cons c cs => rfl

theorem startsLower_flatMap {α : Type} {f : α → List Char} {xs : List α}
    (h : ∀ x ∈ xs, startsLower (f x) = false) : startsLower (xs.flatMap f) = false := by
  induction xs with
  | nil => rfl
  | cons x xs ih =>
      rw [List.flatMap_cons]
      exact startsLower_append (h x List.mem_cons_self)
        (ih fun y hy => h y (List.mem_cons_of_mem x hy))

theorem avoids_lowerRun : uppercaseShifts.all (fun s => s.avoids lowerRun) = true := by
  decide +kernel

/-- No upper-case form begins with a lower-case letter. -/
theorem startsLower_uppercase (c : Char) : startsLower (uppercase c) = false := by
  unfold uppercase
  split
  · next hlt =>
      have hascii : ∀ n < 0x80, (Char.ofNat n).toUpper.isLower = false := by decide
      exact Naming.forall_of_forall_lt (P := fun c => c.toUpper.isLower = false) hascii hlt
  · next hlt =>
      unfold mapCase
      split
      · next image himage =>
          obtain ⟨s, hs, hn⟩ := List.exists_of_findSome?_eq_some himage
          have havoids := List.all_eq_true.1 avoids_lowerRun s hs
          exact isLower_ofNat_eq_false (Shift.contains_eq_false havoids hn)
      · split
        · next ns hns =>
            have hexpansions : ∀ entry ∈ uppercaseExpansions,
                startsLower (entry.2.map Char.ofNat) = false := by decide +kernel
            obtain ⟨_, _, hsplit, -⟩ := List.lookup_eq_some_iff.1 hns
            exact hexpansions (c.toNat, ns) (by simp [hsplit])
        · exact isLower_eq_false_of_le (Nat.le_of_not_lt hlt)

end TypedClient.Text

namespace TypedClient.Naming

open Lexical Text

/-! ## Class names -/

theorem typeSegment_eq_nil {segment : List Char} : typeSegment segment = [] ↔ segment = [] := by
  cases segment with
  | nil => simp [typeSegment, titleCase]
  | cons c cs =>
      simp only [typeSegment, titleCase, reduceCtorEq, iff_false]
      split
      · simp
      · split <;> simp [uppercase_ne_nil]

theorem startsLower_typeSegment (segment : List Char) :
    startsLower (typeSegment segment) = false := by
  have hascii : ∀ n < 0x80, (Char.ofNat n).isLower = true →
      isUppercase (Char.ofNat n) = false ∧ isAlphabetic (Char.ofNat n) = true := by decide
  have hlower : ∀ c : Char, c.isLower = true → isUppercase c = false ∧ isAlphabetic c = true := by
    intro c hc
    have hlt : c.toNat < 0x80 := Nat.lt_of_le_of_lt (isLower_iff.1 hc).2 (by decide)
    exact forall_of_forall_lt (P := fun c => c.isLower = true →
      isUppercase c = false ∧ isAlphabetic c = true) hascii hlt hc
  cases segment with
  | nil => rfl
  | cons c cs =>
      unfold typeSegment
      split
      · next hupper =>
          change c.isLower = false
          rw [Bool.eq_false_iff]
          intro hc
          have hupper : isUppercase c = true := hupper
          rw [(hlower c hc).1] at hupper
          cases hupper
      · unfold titleCase
        split
        · rw [if_neg Bool.false_ne_true, startsLower_append_of_ne_nil (uppercase_ne_nil c)]
          exact startsLower_uppercase c
        · next halphabetic =>
            change c.isLower = false
            rw [Bool.eq_false_iff]
            exact fun hc => halphabetic (hlower c hc).2

theorem startsLower_typeWords (raw : String) : startsLower (typeWords raw).toList = false := by
  rw [typeWords, String.toList_ofList]
  exact startsLower_flatMap fun segment _ => startsLower_typeSegment segment

end TypedClient.Naming

namespace TypedClient.Lexical

open Text

/-! ## Valid names -/

theorem startsLower_maskWord {cs : List Char} (h : startsLower cs = false) :
    startsLower (maskWord cs) = false := by
  cases cs with
  | nil => rfl
  | cons c cs =>
      have hmask : (maskChar c).isLower = false := by
        unfold maskChar
        split
        · exact h
        · rfl
      rw [maskWord, List.map_cons]
      simp only
      split
      · rfl
      · exact hmask

/-- A name that is made valid begins with no lower-case letter if the text does not. -/
theorem startsLower_sanitize {raw : String} (h : startsLower raw.toList = false) :
    startsLower (sanitize raw).toList = false := by
  have hword := startsLower_maskWord h
  unfold sanitize
  simp only
  split
  · rw [String.toList_append, String.toList_ofList]
    exact startsLower_append hword rfl
  · rwa [String.toList_ofList]

end TypedClient.Lexical
