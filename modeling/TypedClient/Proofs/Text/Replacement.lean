import Mathlib.Data.List.Infix
import TypedClient.Text.Blank

/-!
# Replacing words

What the replacement of a word does to a text, read from the left: where the word stands its
replacement follows, and everything else stays (`replaceAll_append`, `replaceAll_cons`), so that no
other characters come in (`mem_of_mem_replaceAll`). Several words may be replaced at once in the
same way (`replaceEach`).
-/

namespace TypedClient.Text

variable {word replacement : List Char}

theorem go_append_length (cs rest : List Char) :
    replaceAll.go word replacement (cs ++ rest) cs.length =
      replaceAll.go word replacement rest 0 := by
  induction cs with
  | nil => rfl
  | cons c cs ih =>
      rw [List.cons_append, List.length_cons, replaceAll.go]
      exact ih

/-- A word in front is replaced. -/
theorem replaceAll_append (hword : word ≠ []) (rest : List Char) :
    replaceAll word replacement (word ++ rest) =
      replacement ++ replaceAll word replacement rest := by
  cases word with
  | nil => exact absurd rfl hword
  | cons w ws =>
      have hhead : (!(w :: ws).isEmpty && (w :: ws).isPrefixOf (w :: (ws ++ rest))) = true := by
        simp
      rw [replaceAll, List.cons_append, replaceAll.go, if_pos hhead, List.length_cons,
        Nat.add_sub_cancel, go_append_length]
      rfl

/-- A character at which the word does not stand stays. -/
theorem replaceAll_cons {c : Char} {cs : List Char} (h : ¬word <+: c :: cs) :
    replaceAll word replacement (c :: cs) = c :: replaceAll word replacement cs := by
  have hhead : ¬(!word.isEmpty && word.isPrefixOf (c :: cs)) = true := by
    simp [h]
  rw [replaceAll, replaceAll.go, if_neg hhead]
  rfl

theorem mem_go_replaceAll {c : Char} {cs : List Char} {skip : Nat}
    (h : c ∈ replaceAll.go word replacement cs skip) : c ∈ replacement ∨ c ∈ cs := by
  fun_induction replaceAll.go word replacement cs skip with
  | case1 => cases h
  | case2 d cs skip ih => exact (ih h).imp_right (List.mem_cons_of_mem d)
  | case3 d cs hhead ih =>
      rcases List.mem_append.1 h with h | h
      · exact Or.inl h
      · exact (ih h).imp_right (List.mem_cons_of_mem d)
  | case4 d cs hhead ih =>
      rcases List.mem_cons.1 h with rfl | h
      · exact Or.inr List.mem_cons_self
      · exact (ih h).imp_right (List.mem_cons_of_mem d)

/-- A replacement brings no characters but those of what stands for the word. -/
theorem mem_of_mem_replaceAll {c : Char} {cs : List Char}
    (h : c ∈ replaceAll word replacement cs) : c ∈ replacement ∨ c ∈ cs := mem_go_replaceAll h

/-! ## Several words at once -/

/-- The text with every word of a table replaced by what stands beside it there. Where several words
begin, the first of the table counts. `skip` is the number of characters that belong to a word which
has been replaced already. -/
def replaceEach (table : List (List Char × List Char)) : List Char → (skip : Nat) → List Char
  | [], _ => []
  | _ :: cs, skip + 1 => replaceEach table cs skip
  | c :: cs, 0 =>
    match table.find? fun entry => entry.1.isPrefixOf (c :: cs) with
    | some entry => entry.2 ++ replaceEach table cs (entry.1.length - 1)
    | none => c :: replaceEach table cs 0

section Table

variable {table : List (List Char × List Char)}

theorem replaceEach_append_length (cs rest : List Char) :
    replaceEach table (cs ++ rest) cs.length = replaceEach table rest 0 := by
  induction cs with
  | nil => rfl
  | cons c cs ih => exact ih

theorem replaceEach_append {value rest : List Char} (hword : word ≠ [])
    (h : table.find? (fun entry => entry.1.isPrefixOf (word ++ rest)) = some (word, value)) :
    replaceEach table (word ++ rest) 0 = value ++ replaceEach table rest 0 := by
  cases word with
  | nil => exact absurd rfl hword
  | cons w ws =>
      rw [List.cons_append] at h ⊢
      rw [replaceEach, h]
      simp only [List.length_cons, Nat.add_sub_cancel]
      rw [replaceEach_append_length]

theorem replaceEach_cons {c : Char} {cs : List Char}
    (h : ∀ entry ∈ table, ¬entry.1 <+: c :: cs) :
    replaceEach table (c :: cs) 0 = c :: replaceEach table cs 0 := by
  have hnone : table.find? (fun entry => entry.1.isPrefixOf (c :: cs)) = none := by
    rw [List.find?_eq_none]
    intro entry hentry
    rw [List.isPrefixOf_iff_prefix]
    exact h entry hentry
  rw [replaceEach, hnone]

end Table

end TypedClient.Text
