import TypedClient.Proofs.Lexical.ClassWords
import TypedClient.Proofs.Lexical.ReservedNames

/-!
# Snake case

Each step of the conversion takes one upper-case character away and brings none in, for no
lower-case form holds any (`isUppercase_eq_false_of_mem_lowercase`). So no upper-case character is
left in the end (`isUppercase_eq_false_of_mem_snakeCase`), and the name of an argument is an
argument name already (`parameterName_parameterName`). Characters without a lower-case form are out
of reach here, as the conversion makes no progress on them; but none of them is left in front, for
the first step puts an underscore there (`startsOther_parameterName`).
-/

namespace TypedClient.Text

/-! ## Lower-case forms -/

/-- A check that no image of the shift is in the run: it lies before the run or behind it, or the
two alternate, or there is but one image. -/
def Shift.avoids (s : Shift) (r : Run) : Bool :=
  Nat.blt r.last s.image || (Nat.blt (s.image + (s.last - s.first)) r.first ||
    (Nat.beq s.step 2 && Nat.beq r.step 2 && Nat.beq ((s.image + r.first) % 2) 1 ||
      Nat.beq s.first s.last && !r.contains s.image))

theorem Shift.contains_eq_false {s : Shift} {r : Run} (h : s.avoids r = true) {n image : Nat}
    (hn : s.imageOf? n = some image) : r.contains image = false := by
  simp only [avoids, Bool.or_eq_true, Bool.and_eq_true, Nat.blt_eq, Nat.beq_eq,
    Bool.not_eq_true'] at h
  unfold imageOf? at hn
  split at hn
  · next hcovers =>
      cases hn
      simp only [Bool.and_eq_true, decide_eq_true_eq, beq_iff_eq] at hcovers
      rw [Bool.eq_false_iff]
      intro hcontains
      simp only [Run.contains, Bool.and_eq_true, decide_eq_true_eq, beq_iff_eq] at hcontains
      rcases h with hbefore | hbehind | ⟨⟨hstep, hstep'⟩, halternate⟩ | ⟨hone, hfree⟩
      · omega
      · omega
      · rw [hstep] at hcovers
        rw [hstep'] at hcontains
        omega
      · have heq : s.image + (n - s.first) = s.image := by omega
        rw [heq] at hcontains
        simp [Run.contains, hcontains] at hfree
  · cases hn

theorem avoids_uppercaseRuns :
    lowercaseShifts.all (fun s => uppercaseRuns.all s.avoids) = true := by
  decide +kernel

theorem memberOf_of_isUppercase {c : Char} (h : isUppercase c = true) :
    Run.memberOf uppercaseRuns c.toNat = true := by
  have hascii : ∀ n < 0x80, isUppercase (Char.ofNat n) = true →
      Run.memberOf uppercaseRuns (Char.ofNat n).toNat = true := by decide +kernel
  by_cases hlt : c.toNat < 0x80
  · exact Naming.forall_of_forall_lt
      (P := fun c => isUppercase c = true → Run.memberOf uppercaseRuns c.toNat = true) hascii hlt h
  · simpa [isUppercase, hlt] using h

/-- A character that is made from a number is of that number, or else of zero. -/
theorem isUppercase_ofNat_eq_false {n : Nat} (h : Run.memberOf uppercaseRuns n = false) :
    isUppercase (Char.ofNat n) = false := by
  by_cases hvalid : n.isValidChar
  · have hnumber : (Char.ofNat n).toNat = n := by
      rw [Char.ofNat, dif_pos hvalid]
      rfl
    rw [Bool.eq_false_iff]
    intro hupper
    rw [← hnumber, memberOf_of_isUppercase hupper] at h
    cases h
  · have hzero : Char.ofNat n = '\x00' := by
      rw [Char.ofNat, dif_neg hvalid]
      rfl
    rw [hzero]
    decide

/-- The lower-case form of a character holds no upper-case character, if it is a form of its own. -/
theorem isUppercase_eq_false_of_mem_lowercase {c d : Char} (h : lowercase c ≠ [c])
    (hd : d ∈ lowercase c) : isUppercase d = false := by
  unfold lowercase at h hd
  split at h
  · next hlt =>
      have hascii : ∀ n < 0x80, isUppercase (Char.ofNat n).toLower = false := by decide +kernel
      rw [if_pos hlt, List.mem_singleton] at hd
      rw [hd]
      exact Naming.forall_of_forall_lt (P := fun c => isUppercase c.toLower = false) hascii hlt
  · next hlt =>
      rw [if_neg hlt] at hd
      unfold mapCase at h hd
      split at h
      · next image himage =>
          obtain ⟨s, hs, hn⟩ := List.exists_of_findSome?_eq_some himage
          rw [himage, List.mem_singleton] at hd
          rw [hd]
          apply isUppercase_ofNat_eq_false
          rw [Run.memberOf, List.any_eq_false]
          intro r hr
          rw [Bool.not_eq_true]
          have havoids := List.all_eq_true.1 (List.all_eq_true.1 avoids_uppercaseRuns s hs) r hr
          exact Shift.contains_eq_false havoids hn
      · next himage =>
          rw [himage] at hd
          split at h
          · next ns hns =>
              have hexpansions : ∀ entry ∈ lowercaseExpansions, ∀ n ∈ entry.2,
                  isUppercase (Char.ofNat n) = false := by decide +kernel
              simp only [hns] at hd
              obtain ⟨n, hn, rfl⟩ := List.mem_map.1 hd
              obtain ⟨_, _, hsplit, -⟩ := List.lookup_eq_some_iff.1 hns
              exact hexpansions (c.toNat, ns) (by simp [hsplit]) n hn
          · exact absurd rfl h

end TypedClient.Text

namespace TypedClient.Naming

open TypedClient.Text

/-! ## Steps -/

/-- Every upper-case character has a lower-case form of its own. -/
def HasLowercase (cs : List Char) : Prop := ∀ c ∈ cs, isUppercase c = true → lowercase c ≠ [c]

instance (cs : List Char) : Decidable (HasLowercase cs) :=
  List.decidableBAll (fun c => isUppercase c = true → lowercase c ≠ [c]) cs

/-- A step changes the first upper-case character and nothing else. -/
theorem snakeStep?_eq_some_iff {cs next : List Char} :
    snakeStep? cs = some next ↔ ∃ before c after, cs = before ++ c :: after ∧
      (∀ d ∈ before, isUppercase d = false) ∧ isUppercase c = true ∧
      next = before ++ '_' :: (lowercase c ++ after) := by
  induction cs generalizing next with
  | nil => simp [snakeStep?]
  | cons c cs ih =>
      cases hc : isUppercase c with
      | true =>
          rw [snakeStep?_cons_upper hc]
          constructor
          · intro h
            cases h
            exact ⟨[], c, cs, rfl, List.forall_mem_nil _, hc, rfl⟩
          · rintro ⟨_ | ⟨d, before⟩, e, after, heq, hbefore, -, rfl⟩
            · cases heq
              rfl
            · obtain ⟨rfl, -⟩ := List.cons.inj heq
              rw [hbefore c List.mem_cons_self] at hc
              cases hc
      | false =>
          rw [snakeStep?_cons_other hc, Option.map_eq_some_iff]
          constructor
          · rintro ⟨rest, hrest, rfl⟩
            obtain ⟨before, d, after, rfl, hbefore, hd, rfl⟩ := ih.1 hrest
            exact ⟨c :: before, d, after, rfl, List.forall_mem_cons.2 ⟨hc, hbefore⟩, hd, rfl⟩
          · rintro ⟨_ | ⟨d, before⟩, e, after, heq, hbefore, he, rfl⟩
            · obtain ⟨rfl, -⟩ := List.cons.inj heq
              rw [hc] at he
              cases he
            · obtain ⟨rfl, rfl⟩ := List.cons.inj heq
              exact ⟨_,
                ih.2 ⟨before, e, after, rfl, (List.forall_mem_cons.1 hbefore).2, he, rfl⟩, rfl⟩

/-- A step takes one upper-case character away. -/
theorem snakeStep?_eq_some {cs next : List Char} (hcs : HasLowercase cs)
    (h : snakeStep? cs = some next) :
    cs.countP isUppercase = next.countP isUppercase + 1 ∧ HasLowercase next := by
  obtain ⟨before, c, after, rfl, -, hc, rfl⟩ := snakeStep?_eq_some_iff.1 h
  have hmem : c ∈ before ++ c :: after := List.mem_append_right _ List.mem_cons_self
  have hform : ∀ d ∈ '_' :: lowercase c, isUppercase d = false :=
    List.forall_mem_cons.2
      ⟨by decide, fun d hd => isUppercase_eq_false_of_mem_lowercase (hcs c hmem hc) hd⟩
  constructor
  · have hcount : ('_' :: lowercase c).countP isUppercase = 0 :=
      List.countP_eq_zero.2 fun d hd => by simp [hform d hd]
    rw [← List.cons_append, List.countP_append, List.countP_append, List.countP_append, hcount,
      List.countP_cons_of_pos hc]
    omega
  · intro d hd hupper
    rw [← List.cons_append, List.mem_append, List.mem_append] at hd
    rcases hd with hd | hd | hd
    · exact hcs d (List.mem_append_left _ hd) hupper
    · rw [hform d hd] at hupper
      cases hupper
    · exact hcs d (List.mem_append_right _ (List.mem_cons_of_mem c hd)) hupper

theorem isUppercase_eq_false_of_mem_snakeSteps {steps : Nat} {cs : List Char}
    (hcs : HasLowercase cs) (hsteps : cs.countP isUppercase ≤ steps) :
    ∀ c ∈ snakeSteps steps cs, isUppercase c = false := by
  induction steps generalizing cs with
  | zero =>
      intro c hc
      have hnone := List.countP_eq_zero.1 (Nat.le_zero.1 hsteps) c hc
      simpa using hnone
  | succ steps ih =>
      unfold snakeSteps
      split
      · next hstep => exact (snakeStep?_eq_none_iff cs).1 hstep
      · next next hstep =>
          obtain ⟨hcount, hnext⟩ := snakeStep?_eq_some hcs hstep
          exact ih hnext (by omega)

/-- No upper-case character is left. -/
theorem isUppercase_eq_false_of_mem_snakeCase {cs : List Char} (h : HasLowercase cs) :
    ∀ c ∈ snakeCase cs, isUppercase c = false :=
  isUppercase_eq_false_of_mem_snakeSteps h (Nat.le_refl _)

theorem snakeCase_of_forall {cs : List Char} (h : ∀ c ∈ cs, isUppercase c = false) :
    snakeCase cs = cs := by
  have hcount : cs.countP isUppercase = 0 := List.countP_eq_zero.2 fun c hc => by simp [h c hc]
  rw [snakeCase, hcount, snakeSteps]

/-! ## First characters -/

/-- No upper-case character is in front. -/
def StartsOther (cs : List Char) : Prop := ∀ c ∈ cs.head?, isUppercase c = false

theorem startsOther_cons {c : Char} (h : isUppercase c = false) (cs : List Char) :
    StartsOther (c :: cs) := by
  intro d hd
  cases hd
  exact h

theorem StartsOther.append {cs : List Char} (h : StartsOther cs) (hne : cs ≠ []) (ds : List Char) :
    StartsOther (cs ++ ds) := by
  cases cs with
  | nil => exact absurd rfl hne
  | cons c cs => exact startsOther_cons (h c rfl) (cs ++ ds)

theorem startsOther_of_snakeStep? {cs next : List Char} (h : snakeStep? cs = some next) :
    StartsOther next := by
  obtain ⟨before, c, after, -, hbefore, -, rfl⟩ := snakeStep?_eq_some_iff.1 h
  cases before with
  | nil => exact startsOther_cons (by decide) _
  | cons d before => exact startsOther_cons (hbefore d List.mem_cons_self) _

theorem StartsOther.snakeSteps {cs : List Char} (h : StartsOther cs) (steps : Nat) :
    StartsOther (snakeSteps steps cs) := by
  induction steps generalizing cs with
  | zero => exact h
  | succ steps ih =>
      rw [Naming.snakeSteps]
      split
      · exact h
      · next next hstep => exact ih (startsOther_of_snakeStep? hstep)

/-- Whatever the text, the first step takes an upper-case character in front away. -/
theorem startsOther_snakeCase (cs : List Char) : StartsOther (snakeCase cs) := by
  rw [snakeCase]
  cases hcount : cs.countP isUppercase with
  | zero =>
      intro c hc
      have hnone := List.countP_eq_zero.1 hcount c (List.mem_of_mem_head? hc)
      simpa using hnone
  | succ steps =>
      rw [snakeSteps]
      split
      · next hstep =>
          intro c hc
          exact (snakeStep?_eq_none_iff cs).1 hstep c (List.mem_of_mem_head? hc)
      · next next hstep => exact (startsOther_of_snakeStep? hstep).snakeSteps steps

theorem StartsOther.maskWord {cs : List Char} (h : StartsOther cs) :
    StartsOther (Lexical.maskWord cs) := by
  cases cs with
  | nil => exact startsOther_cons (by decide) []
  | cons c cs =>
      have hmask : isUppercase (Lexical.maskChar c) = false := by
        unfold Lexical.maskChar
        split
        · exact h c rfl
        · decide
      rw [Lexical.maskWord, List.map_cons]
      simp only
      split
      · exact startsOther_cons (by decide) _
      · exact startsOther_cons hmask _

theorem StartsOther.sanitize {s : String} (h : StartsOther s.toList) :
    StartsOther (Lexical.sanitize s).toList := by
  unfold Lexical.sanitize
  simp only
  split
  · rw [String.toList_append, String.toList_ofList]
    exact h.maskWord.append (Lexical.maskWord_ne_nil s.toList) _
  · rw [String.toList_ofList]
    exact h.maskWord

/-- An argument begins with no upper-case character. -/
theorem startsOther_parameterName (wireName : String) :
    StartsOther (parameterName wireName).toList := by
  have hwords : StartsOther (functionWords wireName).toList := by
    rw [functionWords, String.toList_ofList]
    exact startsOther_snakeCase wireName.toList
  have hname := hwords.sanitize
  unfold parameterName Lexical.sanitizeParameter
  simp only
  split
  · have hne : (Lexical.sanitize (functionWords wireName)).toList ≠ [] := by
      intro hnil
      have hword := Lexical.isWord_of_isValidIdentifier
        (Lexical.isValidIdentifier_sanitize (functionWords wireName))
      rw [hnil] at hword
      exact Lexical.not_isWord_nil hword
    rw [String.toList_append]
    exact hname.append hne _
  · exact hname

/-! ## Arguments -/

/-- Making a text an identifier brings no upper-case character in. -/
theorem isUppercase_eq_false_of_mem_sanitize {s : String}
    (h : ∀ c ∈ s.toList, isUppercase c = false) :
    ∀ c ∈ (Lexical.sanitize s).toList, isUppercase c = false := by
  have hmask : ∀ c ∈ s.toList.map Lexical.maskChar, isUppercase c = false := by
    intro c hc
    obtain ⟨d, hd, rfl⟩ := List.mem_map.1 hc
    unfold Lexical.maskChar
    split
    · exact h d hd
    · decide
  have hword : ∀ c ∈ Lexical.maskWord s.toList, isUppercase c = false := by
    unfold Lexical.maskWord
    split
    · exact List.forall_mem_singleton.2 (by decide)
    · next heq =>
        rw [heq] at hmask
        split
        · exact List.forall_mem_cons.2 ⟨by decide, hmask⟩
        · exact hmask
  unfold Lexical.sanitize
  simp only
  split
  · rw [String.toList_append, String.toList_ofList]
    exact List.forall_mem_append.2 ⟨hword, List.forall_mem_singleton.2 (by decide)⟩
  · rwa [String.toList_ofList]

theorem isUppercase_eq_false_of_mem_sanitizeParameter {s : String}
    (h : ∀ c ∈ s.toList, isUppercase c = false) :
    ∀ c ∈ (Lexical.sanitizeParameter s).toList, isUppercase c = false := by
  have hname := isUppercase_eq_false_of_mem_sanitize h
  unfold Lexical.sanitizeParameter
  simp only
  split
  · have hsuffix : "_param".toList.any isUppercase = false := by decide
    rw [String.toList_append]
    exact List.forall_mem_append.2 ⟨hname, by simpa using hsuffix⟩
  · exact hname

/-- The name of an argument is an argument name already. -/
theorem parameterName_parameterName {wireName : String} (h : HasLowercase wireName.toList) :
    parameterName (parameterName wireName) = parameterName wireName := by
  have hlower : ∀ c ∈ (parameterName wireName).toList, isUppercase c = false := by
    apply isUppercase_eq_false_of_mem_sanitizeParameter
    rw [functionWords, String.toList_ofList]
    exact isUppercase_eq_false_of_mem_snakeCase h
  have hwords : functionWords (parameterName wireName) = parameterName wireName := by
    rw [functionWords, snakeCase_of_forall hlower, String.ofList_toList]
  rw [parameterName, hwords]
  exact Lexical.sanitizeParameter_of_free (Lexical.isValidIdentifier_sanitizeParameter _)
    (Lexical.sanitizeParameter_not_mem_clientNames _)

end TypedClient.Naming
