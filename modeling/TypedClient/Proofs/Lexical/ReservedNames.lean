import Mathlib.Data.List.Infix
import TypedClient.Proofs.Lexical.FreshNames

/-!
# Names that avoid reserved words

Fields avoid what a model class has already, and arguments what the body of a function uses. A name
that avoids these words from the start is left as it is (`sanitizeField_of_isFieldName`,
`sanitizeParameter_of_free`), and any other is changed into one that does
(`isFieldName_sanitizeField`, `sanitizeParameter_not_mem_clientNames`). A counter makes no reserved
word, so field names stay field names when they are made distinct (`areFieldNames_uniqueAll`). So
each of the three maps is a retraction onto the names that it allows (`retractsOnto_sanitizers`): it
repairs nothing twice, and no repair brings back what another one has taken away.
-/

namespace TypedClient.Lexical

/-! ## Valid identifiers -/

theorem maskWord_of_isWord {cs : List Char} (h : IsWord cs) : maskWord cs = cs := by
  cases cs with
  | nil => exact absurd h not_isWord_nil
  | cons c cs =>
      obtain ⟨hdigit, hchars⟩ := isWord_cons_iff.1 h
      have hmap : (c :: cs).map maskChar = c :: cs :=
        (List.map_congr_left fun d hd => maskChar_of_isIdentifierChar (hchars d hd)).trans
          (List.map_id _)
      rw [maskWord, hmap]
      simp [hdigit]

/-- A valid identifier is left as it is. -/
theorem sanitize_of_isValidIdentifier {s : String} (h : isValidIdentifier s = true) :
    sanitize s = s := by
  obtain ⟨hword, hkeyword⟩ := isValidIdentifier_iff.1 h
  simp [sanitize, maskWord_of_isWord hword, hkeyword]

/-- Characters of identifiers may follow a valid identifier, as long as no keyword ends in them. -/
theorem isValidIdentifier_append {s suffix : String} (h : isValidIdentifier s = true)
    (hchars : suffix.toList.all isIdentifierChar = true)
    (hkeyword : ∀ k ∈ keywords, ¬suffix.toList <:+ k.toList) :
    isValidIdentifier (s ++ suffix) = true := by
  rw [isValidIdentifier_iff, String.toList_append]
  exact ⟨(isWord_of_isValidIdentifier h).append (List.all_eq_true.1 hchars),
    isKeyword_append_eq_false hkeyword s⟩

/-! ## Fields -/

/-- Words that a field may not have as its name. -/
def reservedWords : List String := reservedAttributes ++ modelSymbols

/-- A name that a field of a model can have. -/
structure IsFieldName (name : String) : Prop where
  valid : isValidIdentifier name = true
  head : name.toList.head? ≠ some '_'
  free : name ∉ reservedWords

theorem append_not_mem_reservedWords {suffix : String}
    (h : ∀ word ∈ reservedWords, ¬suffix.toList <:+ word.toList) (base : String) :
    base ++ suffix ∉ reservedWords := by
  intro hmem
  apply h _ hmem
  rw [String.toList_append]
  exact List.suffix_append _ _

/-- No reserved word begins with `field_`. -/
theorem field_append_not_mem_reservedWords {name : String} (h : name.toList.head? = some '_') :
    "field" ++ name ∉ reservedWords := by
  have hwords : ∀ word ∈ reservedWords, ¬['f', 'i', 'e', 'l', 'd', '_'] <+: word.toList := by decide
  intro hmem
  apply hwords _ hmem
  obtain ⟨cs, hcs⟩ := List.head?_eq_some_iff.1 h
  rw [String.toList_append, hcs]
  exact ⟨cs, rfl⟩

/-- Whatever the property is called, the field has a name that a model allows. -/
theorem isFieldName_sanitizeField (raw : String) : IsFieldName (sanitizeField raw) := by
  have hvalid := isValidIdentifier_sanitize raw
  unfold sanitizeField
  simp only
  split
  · next hhead =>
      have hhead := eq_of_beq hhead
      refine ⟨?_, ?_, field_append_not_mem_reservedWords hhead⟩
      · rw [isValidIdentifier_iff, String.toList_append]
        have hfield : IsWord "field".toList := isWord_of_isValidIdentifier (by decide)
        refine ⟨hfield.append (isWord_of_isValidIdentifier hvalid).chars, ?_⟩
        apply isKeyword_eq_false_of_mem
        rw [String.toList_append]
        exact List.mem_append_right _ (List.mem_of_mem_head? hhead)
      · rw [String.toList_append, List.head?_append]
        simp
  · next hhead =>
      have hhead : (sanitize raw).toList.head? ≠ some '_' := by simpa using hhead
      split
      · refine ⟨isValidIdentifier_append hvalid (by decide) (by decide), ?_,
          append_not_mem_reservedWords (by decide) _⟩
        obtain ⟨c, hc, -⟩ := (isWord_of_isValidIdentifier hvalid).head
        rw [String.toList_append, List.head?_append, hc]
        rwa [hc] at hhead
      · next hfree =>
          refine ⟨hvalid, hhead, ?_⟩
          rw [reservedWords, List.mem_append]
          simpa using hfree

/-- A name that a model allows is left as it is. -/
theorem sanitizeField_of_isFieldName {s : String} (h : IsFieldName s) : sanitizeField s = s := by
  have hfree := h.free
  rw [reservedWords, List.mem_append, not_or] at hfree
  simp [sanitizeField, sanitize_of_isValidIdentifier h.valid, h.head, hfree.1, hfree.2]

/-- No reserved word ends in a digit. -/
theorem numbered_not_mem_reservedWords (base : String) (k : Nat) :
    numbered base k ∉ reservedWords := by
  have hwords : ∀ word ∈ reservedWords, word.toList.getLast?.map Char.isDigit = some false := by
    decide
  intro hmem
  have hdigits : Nat.toDigits 10 k ≠ [] := Nat.toDigits_ne_nil
  obtain ⟨c, hc⟩ := Option.isSome_iff_exists.1 (List.getLast?_isSome.2 hdigits)
  have hlast : (numbered base k).toList.getLast? = some c := by
    rw [toList_numbered, List.getLast?_append, List.getLast?_cons, hc]
    rfl
  have hdigit := Nat.isDigit_of_mem_toDigits (by decide) (by decide) (List.mem_of_getLast? hc)
  have hword := hwords _ hmem
  rw [hlast, Option.map_some, hdigit] at hword
  cases hword

theorem IsFieldName.numbered {base : String} (h : IsFieldName base) (k : Nat) :
    IsFieldName (numbered base k) where
  valid := isValidIdentifier_numbered (isWord_of_isValidIdentifier h.valid) k
  head := by
    obtain ⟨c, hc, -⟩ := (isWord_of_isValidIdentifier h.valid).head
    have hhead := h.head
    rw [toList_numbered, List.head?_append, hc]
    rwa [hc] at hhead
  free := numbered_not_mem_reservedWords base k

theorem isFieldName_of_mem_uniqueAll {taken bases : List String}
    (h : ∀ base ∈ bases, IsFieldName base) : ∀ name ∈ uniqueAll taken bases, IsFieldName name :=
  forall_mem_uniqueAll (fun _ hbase k => hbase.numbered k) h

/-- Names that the fields of one model can have together. -/
structure AreFieldNames (names : List String) : Prop where
  nodup : names.Nodup
  isFieldName : ∀ name ∈ names, IsFieldName name

theorem AreFieldNames.sublist {names fewer : List String} (h : AreFieldNames names)
    (hfewer : fewer.Sublist names) : AreFieldNames fewer where
  nodup := h.nodup.sublist hfewer
  isFieldName := fun name hname => h.isFieldName name (hfewer.subset hname)

theorem areFieldNames_uniqueAll {bases : List String} (h : ∀ base ∈ bases, IsFieldName base) :
    AreFieldNames (uniqueAll [] bases) where
  nodup := nodup_uniqueAll [] bases
  isFieldName := isFieldName_of_mem_uniqueAll h

/-! ## Arguments -/

theorem isValidIdentifier_sanitizeParameter (raw : String) :
    isValidIdentifier (sanitizeParameter raw) = true := by
  unfold sanitizeParameter
  simp only
  split
  · exact isValidIdentifier_append (isValidIdentifier_sanitize raw) (by decide) (by decide)
  · exact isValidIdentifier_sanitize raw

/-- Whatever the parameter is called, the argument takes no name that the function uses. -/
theorem sanitizeParameter_not_mem_clientNames (raw : String) :
    sanitizeParameter raw ∉ clientNames := by
  have hnames : ∀ name ∈ clientNames, ¬"_param".toList <:+ name.toList := by decide
  unfold sanitizeParameter
  simp only
  split
  · intro hmem
    apply hnames _ hmem
    rw [String.toList_append]
    exact List.suffix_append _ _
  · next hfree => simpa using hfree

/-- A valid identifier that the function does not use is left as it is. -/
theorem sanitizeParameter_of_free {s : String} (h : isValidIdentifier s = true)
    (hfree : s ∉ clientNames) : sanitizeParameter s = s := by
  simp [sanitizeParameter, sanitize_of_isValidIdentifier h, hfree]

/-! ## Retractions -/

/-- The map turns every text into an allowed one and leaves exactly the allowed texts as they are,
so applying it twice is the same as applying it once. -/
structure RetractsOnto (f : String → String) (allowed : String → Prop) : Prop where
  lands (s : String) : allowed (f s)
  eq_self_iff (s : String) : f s = s ↔ allowed s
  idempotent (s : String) : f (f s) = f s

theorem retractsOnto_of_lands {f : String → String} {allowed : String → Prop}
    (hlands : ∀ s, allowed (f s)) (hfixes : ∀ s, allowed s → f s = s) : RetractsOnto f allowed where
  lands := hlands
  eq_self_iff s := by
    constructor
    · intro h
      rw [← h]
      exact hlands s
    · exact hfixes s
  idempotent s := hfixes (f s) (hlands s)

theorem isFieldName_iff {name : String} :
    IsFieldName name ↔ isValidIdentifier name = true ∧ name.toList.head? ≠ some '_' ∧
      name ∉ reservedAttributes ∧ name ∉ modelSymbols := by
  rw [← not_or, ← List.mem_append]
  exact ⟨fun h => ⟨h.valid, h.head, h.free⟩, fun ⟨hvalid, hhead, hfree⟩ => ⟨hvalid, hhead, hfree⟩⟩

/-- Whatever the text, an identifier, an argument and a field name made of it are ones that are
allowed, and only a text that is allowed already is left as it is. -/
theorem retractsOnto_sanitizers :
    RetractsOnto sanitize (fun s => isValidIdentifier s = true) ∧
    RetractsOnto sanitizeParameter (fun s => isValidIdentifier s = true ∧ s ∉ clientNames) ∧
    RetractsOnto sanitizeField (fun s => isValidIdentifier s = true ∧ s.toList.head? ≠ some '_' ∧
      s ∉ reservedAttributes ∧ s ∉ modelSymbols) := by
  refine ⟨retractsOnto_of_lands isValidIdentifier_sanitize fun s => sanitize_of_isValidIdentifier,
    retractsOnto_of_lands (fun s => ?_) fun s h => ?_,
    retractsOnto_of_lands (fun s => ?_) fun s h => ?_⟩
  · exact ⟨isValidIdentifier_sanitizeParameter s, sanitizeParameter_not_mem_clientNames s⟩
  · exact sanitizeParameter_of_free h.1 h.2
  · exact isFieldName_iff.1 (isFieldName_sanitizeField s)
  · exact sanitizeField_of_isFieldName (isFieldName_iff.2 h)

end TypedClient.Lexical
