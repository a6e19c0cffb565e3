import TypedClient.Proofs.Lexical.SnakeCase

/-!
# Snake case in one pass

The conversion starts at the front again after every step (`Converts`). A step changes a single
character, and nothing that it writes is changed again as long as lower-case forms hold no
upper-case character. So it leaves alone what one pass over the text gives
(`onePass_of_snakeStep?`), and the conversion ends there, after one step for each upper-case
character (`converts_onePass`). It ends for no other texts (`exists_converts_iff`). What holds of a
pass over the characters then holds of the conversion (`functionWords_spec`).
-/

namespace TypedClient.Naming

open TypedClient.Text

/-- A text whose upper-case characters have lower-case forms of their own is one in which these
forms hold no upper-case character. -/
theorem hasLowercase_iff {cs : List Char} :
    HasLowercase cs ↔
      ∀ c ∈ cs, isUppercase c = true → ∀ d ∈ lowercase c, isUppercase d = false := by
  constructor
  · intro h c hc hupper d hd
    exact isUppercase_eq_false_of_mem_lowercase (h c hc hupper) hd
  · intro h c hc hupper hsame
    have hlower := h c hc hupper c (by rw [hsame]; exact List.mem_singleton_self c)
    rw [hupper] at hlower
    cases hlower

/-! ## One pass -/

/-- What stands for a character in the end. -/
def snakeChar (c : Char) : List Char := if isUppercase c then '_' :: lowercase c else [c]

/-- Every character replaced by what stands for it in the end. -/
def onePass (cs : List Char) : List Char := cs.flatMap snakeChar

theorem onePass_cons (c : Char) (cs : List Char) : onePass (c :: cs) = snakeChar c ++ onePass cs :=
  List.flatMap_cons

theorem onePass_append (cs ds : List Char) : onePass (cs ++ ds) = onePass cs ++ onePass ds :=
  List.flatMap_append

/-- Text without upper-case characters is left as it is. -/
theorem onePass_of_forall {cs : List Char} (h : ∀ c ∈ cs, isUppercase c = false) :
    onePass cs = cs := by
  induction cs with
  | nil => rfl
  | cons c cs ih =>
      rw [onePass_cons, snakeChar, h c List.mem_cons_self, if_neg Bool.false_ne_true,
        ih fun d hd => h d (List.mem_cons_of_mem c hd)]
      rfl

theorem isUppercase_eq_false_of_mem_snakeChar {c : Char}
    (h : isUppercase c = true → lowercase c ≠ [c]) : ∀ d ∈ snakeChar c, isUppercase d = false := by
  unfold snakeChar
  split
  · next hupper =>
      refine List.forall_mem_cons.2 ⟨by decide, fun d hd => ?_⟩
      exact isUppercase_eq_false_of_mem_lowercase (h hupper) hd
  · next hother => exact List.forall_mem_singleton.2 (Bool.eq_false_iff.2 hother)

/-- A step leaves alone what one pass gives. -/
theorem onePass_of_snakeStep? {cs next : List Char} (hcs : HasLowercase cs)
    (h : snakeStep? cs = some next) : onePass next = onePass cs := by
  obtain ⟨before, c, after, rfl, -, hc, rfl⟩ := snakeStep?_eq_some_iff.1 h
  have hmem : c ∈ before ++ c :: after := List.mem_append_right _ List.mem_cons_self
  have hchar : snakeChar c = '_' :: lowercase c := if_pos hc
  have hdone : onePass ('_' :: lowercase c) = '_' :: lowercase c := by
    rw [← hchar]
    exact onePass_of_forall (isUppercase_eq_false_of_mem_snakeChar (hcs c hmem))
  rw [← List.cons_append, onePass_append, onePass_append ('_' :: lowercase c), hdone,
    onePass_append, onePass_cons, hchar]

/-! ## Conversions -/

/-- The conversion of a text ends after a number of steps, with the result. -/
inductive Converts : (steps : Nat) → List Char → List Char → Prop where
  | ends {cs : List Char} (h : snakeStep? cs = none) : Converts 0 cs cs
  | step {steps : Nat} {cs next result : List Char} (h : snakeStep? cs = some next)
    (hrest : Converts steps next result) : Converts (steps + 1) cs result

theorem Converts.unique {steps steps' : Nat} {cs result result' : List Char}
    (h : Converts steps cs result) (h' : Converts steps' cs result') : result = result' := by
  induction h generalizing steps' with
  | ends h =>
      cases h' with
      | ends _ => rfl
      | step hstep _ =>
          rw [h] at hstep
          cases hstep
  | step h _ ih =>
      cases h' with
      | ends hnone =>
          rw [h] at hnone
          cases hnone
      | step hstep hrest =>
          rw [h] at hstep
          cases hstep
          exact ih hrest

/-- A conversion that ends does so within any larger number of steps. -/
theorem Converts.snakeSteps_eq {steps limit : Nat} {cs result : List Char}
    (h : Converts steps cs result) (hlimit : steps ≤ limit) : snakeSteps limit cs = result := by
  induction h generalizing limit with
  | ends h =>
      cases limit with
      | zero => rfl
      | succ limit => rw [snakeSteps, h]
  | step h _ ih =>
      obtain ⟨limit, rfl⟩ := Nat.exists_eq_succ_of_ne_zero (Nat.ne_zero_of_lt hlimit)
      rw [snakeSteps, h]
      exact ih (Nat.le_of_succ_le_succ hlimit)

/-- There is one step for each upper-case character. -/
theorem converts_onePass {cs : List Char} (h : HasLowercase cs) :
    Converts (cs.countP isUppercase) cs (onePass cs) := by
  induction hn : cs.countP isUppercase generalizing cs with
  | zero =>
      have hnone : ∀ c ∈ cs, isUppercase c = false := by simpa using List.countP_eq_zero.1 hn
      rw [onePass_of_forall hnone]
      exact .ends ((snakeStep?_eq_none_iff cs).2 hnone)
  | succ n ih =>
      cases hstep : snakeStep? cs with
      | none =>
          have hnone := (snakeStep?_eq_none_iff cs).1 hstep
          rw [List.countP_eq_zero.2 fun c hc => by simp [hnone c hc]] at hn
          cases hn
      | some next =>
          obtain ⟨hcount, hnext⟩ := snakeStep?_eq_some h hstep
          rw [← onePass_of_snakeStep? h hstep]
          exact .step hstep (ih hnext (by omega))

/-- Text whose conversion ends has lower-case forms: a character without one is still there behind
every step. -/
theorem Converts.hasLowercase {steps : Nat} {cs result : List Char}
    (h : Converts steps cs result) : HasLowercase cs := by
  induction h with
  | ends h =>
      intro c hc hupper
      rw [(snakeStep?_eq_none_iff _).1 h c hc] at hupper
      cases hupper
  | @step _ cs next _ h _ ih =>
      obtain ⟨before, c, after, rfl, -, hc, rfl⟩ := snakeStep?_eq_some_iff.1 h
      intro d hd hupper
      rcases List.mem_append.1 hd with hd | hd
      · exact ih d (List.mem_append_left _ hd) hupper
      · rcases List.mem_cons.1 hd with rfl | hd
        · intro hsame
          refine ih d (List.mem_append_right _ (List.mem_cons_of_mem _ ?_)) hupper hsame
          rw [hsame]
          exact List.mem_cons_self
        · refine ih d (List.mem_append_right _ (List.mem_cons_of_mem _ ?_)) hupper
          exact List.mem_append_right _ hd

theorem exists_converts_iff {cs : List Char} :
    (∃ steps result, Converts steps cs result) ↔ HasLowercase cs :=
  ⟨fun ⟨_, _, h⟩ => h.hasLowercase, fun h => ⟨_, _, converts_onePass h⟩⟩

theorem snakeCase_eq_onePass {cs : List Char} (h : HasLowercase cs) : snakeCase cs = onePass cs :=
  (converts_onePass h).snakeSteps_eq (Nat.le_refl _)

/-! ## Identifiers -/

/-- If no lower-case form holds an upper-case character, the conversion of an identifier ends, and
its result is what one pass over the characters gives. So no upper-case character is left, a second
conversion changes nothing, and texts side by side are converted side by side. -/
theorem functionWords_spec (s : String)
    (h : ∀ c ∈ s.toList, isUppercase c = true → ∀ d ∈ lowercase c, isUppercase d = false) :
    (∀ result, (∃ steps, Converts steps s.toList result) ↔ result = (functionWords s).toList) ∧
    (functionWords s).toList =
      s.toList.flatMap (fun c => if isUppercase c then '_' :: lowercase c else [c]) ∧
    (∀ c ∈ (functionWords s).toList, isUppercase c = false) ∧
    functionWords (functionWords s) = functionWords s ∧
    ∀ t : String,
      (∀ c ∈ t.toList, isUppercase c = true → ∀ d ∈ lowercase c, isUppercase d = false) →
        functionWords (s ++ t) = functionWords s ++ functionWords t := by
  have hs := hasLowercase_iff.2 h
  have hwords : (functionWords s).toList = onePass s.toList := by
    rw [functionWords, String.toList_ofList, snakeCase_eq_onePass hs]
  have hlower : ∀ c ∈ (functionWords s).toList, isUppercase c = false := by
    rw [functionWords, String.toList_ofList]
    exact isUppercase_eq_false_of_mem_snakeCase hs
  refine ⟨fun result => ?_, hwords, hlower, ?_, fun t ht => ?_⟩
  · rw [hwords]
    constructor
    · rintro ⟨steps, hconverts⟩
      exact hconverts.unique (converts_onePass hs)
    · rintro rfl
      exact ⟨_, converts_onePass hs⟩
  · rw [functionWords, snakeCase_of_forall hlower, String.ofList_toList]
  · have ht := hasLowercase_iff.2 ht
    have hboth : HasLowercase (s ++ t).toList := by
      rw [String.toList_append]
      exact fun c hc => (List.mem_append.1 hc).elim (hs c) (ht c)
    rw [functionWords, functionWords, functionWords, snakeCase_eq_onePass hboth,
      snakeCase_eq_onePass hs, snakeCase_eq_onePass ht, String.toList_append, onePass_append,
      String.ofList_append]

theorem forall_mem_lowercase_of_all (cs : List Char)
    (h : (cs.all fun c => !isUppercase c || (lowercase c).all fun d => !isUppercase d) = true) :
    ∀ c ∈ cs, isUppercase c = true → ∀ d ∈ lowercase c, isUppercase d = false := by
  intro c hc hupper d hd
  have hform := List.all_eq_true.1 h c hc
  rw [hupper, Bool.not_true, Bool.false_or] at hform
  exact (Bool.not_eq_true' _).mp (List.all_eq_true.1 hform d hd)

/-- The capital with a dot has a lower-case form of two characters. -/
theorem functionWords_spec_dotted :
    functionWords "petİD" = "pet_i\u0307_d" ∧
    functionWords (functionWords "petİD") = functionWords "petİD" ∧
    functionWords ("petİD" ++ "Ésize") = functionWords "petİD" ++ functionWords "Ésize" := by
  have hdotted := forall_mem_lowercase_of_all "petİD".toList (by decide +kernel)
  have hacute := forall_mem_lowercase_of_all "Ésize".toList (by decide +kernel)
  obtain ⟨-, hwords, -, htwice, happend⟩ := functionWords_spec "petİD" hdotted
  refine ⟨String.toList_inj.1 (hwords.trans ?_), htwice, happend "Ésize" hacute⟩
  decide +kernel

end TypedClient.Naming
