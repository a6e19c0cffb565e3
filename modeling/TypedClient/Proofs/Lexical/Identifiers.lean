import Mathlib.Data.List.Infix
import TypedClient.Lexical.Identifier

/-!
# Valid identifiers

Whatever text is made an identifier, the result is valid (`isValidIdentifier_sanitize`), and it
stays valid with a counter behind it, since no keyword holds an underscore
(`isValidIdentifier_numbered`). No two counters give one name (`numbered_injective`), and none of
them leaves the name as it is (`numbered_ne_self`).
-/

namespace TypedClient.Lexical

/-! ## Words -/

/-- An identifier, or a keyword: nothing but characters of identifiers, and no digit in front. -/
structure IsWord (cs : List Char) : Prop where
  chars : ∀ c ∈ cs, isIdentifierChar c = true
  head : ∃ c, cs.head? = some c ∧ c.isDigit = false

theorem isWord_cons_iff {c : Char} {cs : List Char} :
    IsWord (c :: cs) ↔ c.isDigit = false ∧ ∀ d ∈ c :: cs, isIdentifierChar d = true := by
  constructor
  · rintro ⟨hchars, d, hd, hdigit⟩
    cases hd
    exact ⟨hdigit, hchars⟩
  · rintro ⟨hdigit, hchars⟩
    exact ⟨hchars, c, rfl, hdigit⟩

theorem not_isWord_nil : ¬IsWord [] := by
  rintro ⟨-, c, hc, -⟩
  cases hc

/-- A word stays one with further characters of identifiers behind it. -/
theorem IsWord.append {cs ds : List Char} (h : IsWord cs)
    (hds : ∀ d ∈ ds, isIdentifierChar d = true) : IsWord (cs ++ ds) := by
  obtain ⟨c, hc, hdigit⟩ := h.head
  refine ⟨?_, c, ?_, hdigit⟩
  · intro d hd
    rcases List.mem_append.1 hd with hd | hd
    · exact h.chars d hd
    · exact hds d hd
  · rw [List.head?_append, hc]
    rfl

theorem isValidIdentifier_iff {s : String} :
    isValidIdentifier s = true ↔ IsWord s.toList ∧ isKeyword s = false := by
  unfold isValidIdentifier
  cases hs : s.toList with
  | nil => simp [not_isWord_nil]
  | cons c cs =>
      rw [isWord_cons_iff, Bool.and_eq_true, Bool.and_eq_true, Bool.not_eq_true', Bool.not_eq_true',
        List.all_eq_true]

theorem isWord_of_isValidIdentifier {s : String} (h : isValidIdentifier s = true) :
    IsWord s.toList := (isValidIdentifier_iff.1 h).1

/-! ## Keywords -/

theorem underscore_not_mem_keyword : ∀ k ∈ keywords, '_' ∉ k.toList := by decide

theorem mem_keywords_iff {s : String} : isKeyword s = true ↔ s ∈ keywords :=
  List.contains_iff_mem

/-- No keyword holds an underscore. -/
theorem isKeyword_eq_false_of_mem {s : String} (h : '_' ∈ s.toList) : isKeyword s = false := by
  rw [Bool.eq_false_iff, ne_eq, mem_keywords_iff]
  exact fun hs => underscore_not_mem_keyword s hs h

theorem isKeyword_append_eq_false {suffix : String}
    (h : ∀ k ∈ keywords, ¬suffix.toList <:+ k.toList) (base : String) :
    isKeyword (base ++ suffix) = false := by
  rw [Bool.eq_false_iff, ne_eq, mem_keywords_iff]
  intro hs
  apply h _ hs
  rw [String.toList_append]
  exact List.suffix_append _ _

/-! ## Texts made identifiers -/

theorem isWord_maskWord (cs : List Char) : IsWord (maskWord cs) := by
  have hmask : ∀ c ∈ cs.map maskChar, isIdentifierChar c = true := by
    intro c hc
    obtain ⟨d, -, rfl⟩ := List.mem_map.1 hc
    exact isIdentifierChar_maskChar d
  unfold maskWord
  split
  · exact isWord_cons_iff.2 ⟨by decide, List.all_eq_true.1 (by decide)⟩
  · next c rest heq =>
      rw [heq] at hmask
      split
      · refine isWord_cons_iff.2 ⟨by decide, ?_⟩
        intro d hd
        rcases List.mem_cons.1 hd with rfl | hd
        · decide
        · exact hmask d hd
      · next hdigit => exact isWord_cons_iff.2 ⟨by simpa using hdigit, hmask⟩

/-- Whatever the text, the result is a valid identifier. -/
theorem isValidIdentifier_sanitize (raw : String) : isValidIdentifier (sanitize raw) = true := by
  have hword : IsWord (String.ofList (maskWord raw.toList)).toList := by
    rw [String.toList_ofList]
    exact isWord_maskWord raw.toList
  unfold sanitize
  simp only
  split
  · rw [isValidIdentifier_iff, String.toList_append]
    refine ⟨hword.append (List.all_eq_true.1 (by decide)), isKeyword_eq_false_of_mem ?_⟩
    rw [String.toList_append]
    exact List.mem_append_right _ (by decide)
  · next hkeyword => exact isValidIdentifier_iff.2 ⟨hword, by simpa using hkeyword⟩

/-! ## Counters -/

theorem isIdentifierChar_of_isDigit {c : Char} (h : c.isDigit = true) :
    isIdentifierChar c = true := by
  rw [Char.isDigit, Bool.and_eq_true, decide_eq_true_eq, decide_eq_true_eq] at h
  have hlow : '0' ≤ c := h.1
  have hhigh : c ≤ '9' := h.2
  simp [isIdentifierChar, hlow, hhigh]

theorem toList_numbered (base : String) (k : Nat) :
    (numbered base k).toList = base.toList ++ '_' :: Nat.toDigits 10 k := by
  rw [numbered, String.toList_append, String.toList_append, Nat.toString_eq_repr, Nat.toList_repr,
    List.append_assoc]
  rfl

theorem numbered_injective (base : String) : Function.Injective (numbered base) := by
  intro a b h
  have hlist := congrArg String.toList h
  rw [toList_numbered, toList_numbered, List.append_cancel_left_eq, List.cons.injEq] at hlist
  have hdigits := congrArg (Nat.ofDigitChars 10 · 0) hlist.2
  simpa using hdigits

theorem numbered_ne_self (base : String) (k : Nat) : numbered base k ≠ base := by
  rw [ne_eq, ← String.toList_inj, toList_numbered, List.append_right_eq_self]
  exact List.cons_ne_nil _ _

theorem isValidIdentifier_numbered {base : String} (h : IsWord base.toList) (k : Nat) :
    isValidIdentifier (numbered base k) = true := by
  rw [isValidIdentifier_iff, toList_numbered]
  refine ⟨h.append ?_, isKeyword_eq_false_of_mem ?_⟩
  · intro d hd
    rcases List.mem_cons.1 hd with rfl | hd
    · decide
    · exact isIdentifierChar_of_isDigit (Nat.isDigit_of_mem_toDigits (by decide) (by decide) hd)
  · rw [toList_numbered]
    exact List.mem_append_right _ List.mem_cons_self

end TypedClient.Lexical
