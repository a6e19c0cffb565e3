import TypedClient.Naming
import TypedClient.Proofs.Lexical.Identifiers

/-!
# Words of class names

A class name is a text with a fixed ending, such as `Enum` or `Query`. No keyword ends like that, so
the name is valid exactly if the text is a stem (`isValidIdentifier_append_iff`): characters of
identifiers, and no digit in front. Capitalising the segments of a text keeps it one of characters
of identifiers, but drops the underscores in front of it (`isStem_typeCase_iff`).
-/

namespace TypedClient.Lexical

/-! ## Stems -/

/-- What may stand in front of a word: characters of identifiers, and no digit in front. -/
structure IsStem (cs : List Char) : Prop where
  chars : ∀ c ∈ cs, isIdentifierChar c = true
  head : ∀ c ∈ cs.head?, c.isDigit = false

theorem IsWord.isStem {cs : List Char} (h : IsWord cs) : IsStem cs := by
  obtain ⟨hchars, c, hc, hdigit⟩ := h
  refine ⟨hchars, ?_⟩
  intro d hd
  rw [hc] at hd
  cases hd
  exact hdigit

theorem isWord_append_iff {cs suffix : List Char} (hsuffix : IsWord suffix) :
    IsWord (cs ++ suffix) ↔ IsStem cs := by
  constructor
  · intro h
    refine ⟨fun c hc => h.chars c (List.mem_append_left suffix hc), ?_⟩
    intro c hc
    apply h.isStem.head
    rw [List.head?_append, hc]
    rfl
  · intro h
    cases cs with
    | nil => exact hsuffix
    | cons c cs =>
        refine IsWord.append ⟨h.chars, c, rfl, h.head c rfl⟩ hsuffix.chars

/-- A text with an ending that no keyword has is valid exactly if the text in front is a stem. -/
theorem isValidIdentifier_append_iff {suffix : String} (hsuffix : isValidIdentifier suffix = true)
    (hkeyword : ∀ k ∈ keywords, ¬suffix.toList <:+ k.toList) (base : String) :
    isValidIdentifier (base ++ suffix) = true ↔ IsStem base.toList := by
  rw [isValidIdentifier_iff, String.toList_append,
    isWord_append_iff (isValidIdentifier_iff.1 hsuffix).1]
  exact ⟨fun h => h.1, fun h => ⟨h, isKeyword_append_eq_false hkeyword base⟩⟩

end TypedClient.Lexical

namespace TypedClient.Naming

open Lexical Text

/-! ## Capitals -/

theorem forall_of_forall_lt {P : Char → Prop} {b : Nat} (h : ∀ n < b, P (Char.ofNat n)) {c : Char}
    (hc : c.toNat < b) : P c := by
  have hn := h c.toNat hc
  rwa [Char.ofNat_toNat] at hn

theorem toNat_lt_of_isIdentifierChar {c : Char} (h : isIdentifierChar c = true) :
    c.toNat < 0x80 := by
  have hle : ∀ d : Char, c ≤ d → c.toNat ≤ d.toNat := fun d hd => hd
  simp only [isIdentifierChar, Bool.or_eq_true, Bool.and_eq_true, decide_eq_true_eq,
    beq_iff_eq] at h
  rcases h with ((⟨-, h⟩ | ⟨-, h⟩) | ⟨-, h⟩) | rfl
  · exact Nat.lt_of_le_of_lt (hle 'Z' h) (by decide)
  · exact Nat.lt_of_le_of_lt (hle 'z' h) (by decide)
  · exact Nat.lt_of_le_of_lt (hle '9' h) (by decide)
  · decide

/-- The upper-case form of a character of identifiers is one such character, and a digit only if the
character is. -/
theorem exists_uppercase_eq {c : Char} (h : isIdentifierChar c = true) :
    ∃ d, uppercase c = [d] ∧ isIdentifierChar d = true ∧ d.isDigit = c.isDigit := by
  have hlt := toNat_lt_of_isIdentifierChar h
  have hall : ∀ n < 0x80, isIdentifierChar (Char.ofNat n) = true →
      isIdentifierChar (Char.ofNat n).toUpper = true ∧
        (Char.ofNat n).toUpper.isDigit = (Char.ofNat n).isDigit := by decide
  refine ⟨c.toUpper, by simp [uppercase, hlt], ?_⟩
  exact forall_of_forall_lt (P := fun c => isIdentifierChar c = true →
    isIdentifierChar c.toUpper = true ∧ c.toUpper.isDigit = c.isDigit) hall hlt h

theorem exists_lowercase_eq {c : Char} (h : isIdentifierChar c = true) :
    ∃ d, lowercase c = [d] ∧ isIdentifierChar d = true := by
  have hlt := toNat_lt_of_isIdentifierChar h
  have hall : ∀ n < 0x80, isIdentifierChar (Char.ofNat n) = true →
      isIdentifierChar (Char.ofNat n).toLower = true := by decide
  refine ⟨c.toLower, by simp [lowercase, hlt], ?_⟩
  exact forall_of_forall_lt (P := fun c => isIdentifierChar c = true →
    isIdentifierChar c.toLower = true) hall hlt h

theorem isIdentifierChar_of_mem_titleCase {cs : List Char}
    (h : ∀ c ∈ cs, isIdentifierChar c = true) (afterLetter : Bool) :
    ∀ c ∈ titleCase afterLetter cs, isIdentifierChar c = true := by
  induction cs generalizing afterLetter with
  | nil => exact fun c hc => absurd hc List.not_mem_nil
  | cons c cs ih =>
      have hc := h c List.mem_cons_self
      have ih := ih fun d hd => h d (List.mem_cons_of_mem c hd)
      intro d hd
      unfold titleCase at hd
      split at hd
      · rcases List.mem_append.1 hd with hd | hd
        · obtain ⟨u, hupper, hu, -⟩ := exists_uppercase_eq hc
          obtain ⟨l, hlower, hl⟩ := exists_lowercase_eq hc
          split at hd
          · rw [hlower] at hd
            rwa [List.mem_singleton.1 hd]
          · rw [hupper] at hd
            rwa [List.mem_singleton.1 hd]
        · exact ih true d hd
      · rcases List.mem_cons.1 hd with rfl | hd
        · exact hc
        · exact ih false d hd

/-! ## Segments -/

theorem isIdentifierChar_of_mem_typeSegment {segment : List Char}
    (h : ∀ c ∈ segment, isIdentifierChar c = true) :
    ∀ c ∈ typeSegment segment, isIdentifierChar c = true := by
  unfold typeSegment
  split
  · exact h
  · exact isIdentifierChar_of_mem_titleCase h false

/-- A segment starts with a digit exactly if it does so once it is capitalised. -/
theorem exists_head?_typeSegment {c : Char} (h : isIdentifierChar c = true) (cs : List Char) :
    ∃ d, (typeSegment (c :: cs)).head? = some d ∧ d.isDigit = c.isDigit := by
  unfold typeSegment
  split
  · exact ⟨c, rfl, rfl⟩
  · unfold titleCase
    split
    · obtain ⟨u, hupper, -, hdigit⟩ := exists_uppercase_eq h
      refine ⟨u, ?_, hdigit⟩
      rw [if_neg Bool.false_ne_true, hupper]
      rfl
    · exact ⟨c, rfl, rfl⟩

theorem mem_of_mem_splitAt {isBreak : Char → Bool} {cs piece : List Char}
    (h : piece ∈ splitAt isBreak cs) : piece ⊆ cs := by
  induction cs generalizing piece with
  | nil =>
      rw [splitAt_nil] at h
      rw [List.mem_singleton.1 h]
      exact List.Subset.refl _
  | cons c cs ih =>
      unfold splitAt at h
      split at h
      · rcases List.mem_cons.1 h with rfl | h
        · exact List.nil_subset _
        · exact List.subset_cons_of_subset c (ih h)
      · split at h
        · rw [List.mem_singleton.1 h]
          simp
        · next first rest heq =>
            rcases List.mem_cons.1 h with rfl | h
            · exact List.cons_subset_cons c (ih (heq ▸ List.mem_cons_self))
            · exact List.subset_cons_of_subset c (ih (heq ▸ List.mem_cons_of_mem first h))

theorem isIdentifierChar_of_mem_typeCase {cs : List Char}
    (h : ∀ c ∈ cs, isIdentifierChar c = true) : ∀ c ∈ typeCase cs, isIdentifierChar c = true := by
  intro c hc
  obtain ⟨segment, hsegment, hc⟩ := List.mem_flatMap.1 hc
  have hpiece := mem_of_mem_splitAt (List.mem_filter.1 hsegment).1
  exact isIdentifierChar_of_mem_typeSegment (fun d hd => h d (hpiece hd)) c hc

theorem typeCase_underscore (cs : List Char) : typeCase ('_' :: cs) = typeCase cs := rfl

/-- A text that starts with neither an underscore nor a space starts with its first segment. -/
theorem exists_typeCase_cons {c : Char} (hunderscore : c ≠ '_') (hspace : c ≠ ' ')
    (cs : List Char) : ∃ segment rest, typeCase (c :: cs) = typeSegment (c :: segment) ++ rest := by
  unfold typeCase splitAt
  rw [if_neg (by simp [hunderscore, hspace])]
  split
  · exact ⟨[], [], rfl⟩
  · next piece rest _ => exact ⟨piece, _, rfl⟩

/-- Underscores in front are dropped, so a digit behind them comes to stand in front. -/
theorem isStem_typeCase_iff {cs : List Char} (h : ∀ c ∈ cs, isIdentifierChar c = true) :
    IsStem (typeCase cs) ↔ ∀ c ∈ (cs.dropWhile (· == '_')).head?, c.isDigit = false := by
  have hhead : (∀ c ∈ (typeCase cs).head?, c.isDigit = false) ↔
      ∀ c ∈ (cs.dropWhile (· == '_')).head?, c.isDigit = false := by
    induction cs with
    | nil => exact Iff.rfl
    | cons c cs ih =>
        by_cases hunderscore : c = '_'
        · subst hunderscore
          rw [typeCase_underscore, ih fun d hd => h d (List.mem_cons_of_mem _ hd)]
          rfl
        · have hc := h c List.mem_cons_self
          have hspace : c ≠ ' ' := by
            rintro rfl
            exact absurd hc (by decide)
          obtain ⟨segment, rest, heq⟩ := exists_typeCase_cons hunderscore hspace cs
          obtain ⟨d, hd, hdigit⟩ := exists_head?_typeSegment hc segment
          rw [heq, List.head?_append, hd, List.dropWhile_cons_of_neg (by simp [hunderscore])]
          simp [hdigit]
  rw [← hhead]
  exact ⟨fun hstem => hstem.head, fun hdigit => ⟨isIdentifierChar_of_mem_typeCase h, hdigit⟩⟩

end TypedClient.Naming
