import Mathlib.Data.List.Basic
import TypedClient.Lexical.Literal

/-!
# Literals as they are read

A reader of string literals ends at the first quote that is not escaped and undoes the escapes on
its way. What `quote` writes is read as the text that it was written for, and nothing behind the
literal is touched (`readLiteral_quote`); only a text with a null character has no literal at all,
since none may hold one.

In a formatted literal the text goes through a second reading (`format`): a pair of equal braces
stands for one of them, and a name between braces for its value. Text without braces stands for
itself (`format_append`), and a name between braces for what it is bound to (`format_braced`). Every
brace that comes out has taken two to write, one way or the other (`two_mul_braces_of_format`).
-/

namespace TypedClient.Lexical

/-! ## String literals -/

/-- The character that a backslash with the given one stands for. No other escapes are written. -/
def unescape? : Char → Option Char
  | '\\' => some '\\'
  | '"' => some '"'
  | 'n' => some '\n'
  | 'r' => some '\r'
  | 't' => some '\t'
  | _ => none

/-- Whether a character stands for itself in a literal. Lines may not end in one, and source text
holds no null character. -/
def isRaw (c : Char) : Bool := c != '\n' && c != '\r' && c != '\x00'

/-- Reads up to the closing quote: the text that is written there, and what follows the quote. -/
def readText : List Char → Option (List Char × List Char)
  | [] => none
  | '"' :: rest => some ([], rest)
  | '\\' :: c :: rest =>
    match unescape? c, readText rest with
    | some d, some (cs, rest) => some (d :: cs, rest)
    | _, _ => none
  | c :: rest => if isRaw c then (readText rest).map fun (cs, rest) => (c :: cs, rest) else none

/-- Reads a literal: the text that it stands for, and what follows it. -/
def readLiteral : List Char → Option (List Char × List Char)
  | '"' :: rest => readText rest
  | _ => none

theorem readText_escape {c d : Char} (h : unescape? c = some d) (rest : List Char) :
    readText ('\\' :: c :: rest) = (readText rest).map fun (cs, rest) => (d :: cs, rest) := by
  rw [readText, h]
  cases readText rest <;> rfl

theorem readText_raw {c : Char} (hquote : c ≠ '"') (hescape : c ≠ '\\') (rest : List Char) :
    readText (c :: rest) =
      if isRaw c then (readText rest).map fun (cs, rest) => (c :: cs, rest) else none := by
  rw [readText.eq_def]
  split
  · next heq => cases heq
  · next heq =>
      cases heq
      exact absurd rfl hquote
  · next heq =>
      cases heq
      exact absurd rfl hescape
  · next heq =>
      cases heq
      rfl

/-- The written form of a character is read as the character, unless it is the null character. -/
theorem readText_escapeChar (c : Char) (rest : List Char) :
    readText (escapeChar c ++ rest) =
      if c = '\x00' then none else (readText rest).map fun (cs, rest) => (c :: cs, rest) := by
  unfold escapeChar
  split
  · exact readText_escape rfl rest
  · exact readText_escape rfl rest
  · exact readText_escape rfl rest
  · exact readText_escape rfl rest
  · exact readText_escape rfl rest
  · next hescape hquote hline hreturn _ =>
      rw [List.singleton_append, readText_raw hquote hescape]
      by_cases hnull : c = '\x00'
      · simp [isRaw, hnull]
      · have hraw : isRaw c = true := by
          rw [isRaw, Bool.and_eq_true, Bool.and_eq_true, bne_iff_ne, bne_iff_ne, bne_iff_ne]
          exact ⟨⟨hline, hreturn⟩, hnull⟩
        rw [if_pos hraw, if_neg hnull]

/-- What is written between quotes is read as it was, and the reader stops at the closing quote. -/
theorem readText_escapeText (cs rest : List Char) :
    readText (escapeText cs ++ '"' :: rest) =
      if '\x00' ∈ cs then none else some (cs, rest) := by
  induction cs with
  | nil => rfl
  | cons c cs ih =>
      rw [escapeText_cons, List.append_assoc, readText_escapeChar, ih]
      by_cases hc : c = '\x00'
      · rw [if_pos hc, if_pos (by simp [hc])]
      · by_cases hcs : '\x00' ∈ cs
        · rw [if_neg hc, if_pos hcs, if_pos (List.mem_cons_of_mem c hcs)]
          rfl
        · have hnot : '\x00' ∉ c :: cs := List.not_mem_cons_of_ne_of_not_mem (Ne.symm hc) hcs
          rw [if_neg hc, if_neg hcs, if_neg hnot]
          rfl

/-- The literal of a text is read as the text, and what follows it is left. -/
theorem readLiteral_quote (s : String) (rest : List Char) :
    readLiteral ((quote s).toList ++ rest) =
      if '\x00' ∈ s.toList then none else some (s.toList, rest) := by
  rw [toList_quote, List.append_assoc, List.cons_append, List.singleton_append]
  exact readText_escapeText s.toList rest

/-! ## Formatted literals -/

/-- Whether a character is a brace of either kind. -/
def isBrace (c : Char) : Bool := c == '\x7b' || c == '\x7d'

/-- The text that a formatted literal stands for, if every name between braces has a value. Its
argument holds what was read of such a name, backwards. -/
def format (value : List Char → Option (List Char)) :
    Option (List Char) → List Char → Option (List Char)
  | none, [] => some []
  | some _, [] => none
  | none, '\x7b' :: '\x7b' :: rest => (format value none rest).map ('\x7b' :: ·)
  | none, '\x7d' :: '\x7d' :: rest => (format value none rest).map ('\x7d' :: ·)
  | none, c :: rest =>
    if c == '\x7b' then format value (some []) rest
    else if c == '\x7d' then none
    else (format value none rest).map (c :: ·)
  | some done, c :: rest =>
    if c == '\x7d' then
      match value done.reverse, format value none rest with
      | some v, some text => some (v ++ text)
      | _, _ => none
    else format value (some (c :: done)) rest

section Format

variable {value : List Char → Option (List Char)}

theorem format_of_not_isBrace {c : Char} (h : isBrace c = false) (rest : List Char) :
    format value none (c :: rest) = (format value none rest).map (c :: ·) := by
  rw [isBrace, Bool.or_eq_false_iff] at h
  have hopen : c ≠ '\x7b' := ne_of_beq_false h.1
  have hclose : c ≠ '\x7d' := ne_of_beq_false h.2
  rw [format.eq_def]
  split
  all_goals simp_all

/-- Text without braces stands for itself. -/
theorem format_append {cs : List Char} (h : ∀ c ∈ cs, isBrace c = false) (rest : List Char) :
    format value none (cs ++ rest) = (format value none rest).map (cs ++ ·) := by
  induction cs with
  | nil => simp
  | cons c cs ih =>
      rw [List.cons_append, format_of_not_isBrace (h c List.mem_cons_self),
        ih fun d hd => h d (List.mem_cons_of_mem c hd), Option.map_map]
      rfl

theorem format_some_append {name done rest : List Char} (h : '\x7d' ∉ name) :
    format value (some done) (name ++ '\x7d' :: rest) =
      match value (done.reverse ++ name), format value none rest with
      | some v, some text => some (v ++ text)
      | _, _ => none := by
  induction name generalizing done with
  | nil =>
      rw [List.nil_append, List.append_nil]
      rfl
  | cons c name ih =>
      have hc : (c == '\x7d') = false := beq_false_of_ne fun heq => h (heq ▸ List.mem_cons_self)
      have hname : '\x7d' ∉ name := fun hmem => h (List.mem_cons_of_mem c hmem)
      rw [List.cons_append, format, hc, if_neg Bool.false_ne_true, ih hname, List.reverse_cons,
        List.append_assoc, List.singleton_append]

theorem format_open {c : Char} (h : c ≠ '\x7b') (rest : List Char) :
    format value none ('\x7b' :: c :: rest) = format value (some []) (c :: rest) := by
  rw [format, if_pos (beq_self_eq_true _)]
  · intro _ _ heq
    exact h (List.cons.inj heq).1
  · intro _ heq
    exact absurd heq (by decide)

/-- A name between braces stands for its value. -/
theorem format_braced {name v : List Char} (hne : name ≠ []) (hopen : '\x7b' ∉ name)
    (hclose : '\x7d' ∉ name) (hvalue : value name = some v) (rest : List Char) :
    format value none ('\x7b' :: (name ++ '\x7d' :: rest)) =
      (format value none rest).map (v ++ ·) := by
  cases name with
  | nil => exact absurd rfl hne
  | cons c name =>
      have hc : c ≠ '\x7b' := fun heq => hopen (heq ▸ List.mem_cons_self)
      have hread : format value (some []) (c :: name ++ '\x7d' :: rest) =
          match value (c :: name), format value none rest with
          | some v, some ds => some (v ++ ds)
          | _, _ => none := format_some_append hclose
      rw [hvalue] at hread
      rw [List.cons_append, format_open hc, ← List.cons_append, hread]
      cases format value none rest <;> rfl

/-! ## Counting braces -/

/-- The number of braces in a text. -/
def braces (cs : List Char) : Nat := cs.countP isBrace

theorem braces_cons (c : Char) (cs : List Char) :
    braces (c :: cs) = braces cs + if isBrace c then 1 else 0 := List.countP_cons

theorem braces_append (cs ds : List Char) : braces (cs ++ ds) = braces cs + braces ds :=
  List.countP_append

theorem braces_eq_zero_iff (cs : List Char) : braces cs = 0 ↔ ∀ c ∈ cs, isBrace c = false := by
  rw [braces, List.countP_eq_zero]
  simp

/-- Two braces have been written for every one that is read, if each value is a single brace and no
name holds one. -/
theorem two_mul_braces_of_format {done : Option (List Char)} {cs text : List Char}
    (hvalue : ∀ name v, value name = some v → braces name = 0 ∧ braces v = 1)
    (h : format value done cs = some text) :
    2 * braces text = (done.elim 0 fun name => 1 + braces name) + braces cs := by
  fun_induction format value done cs generalizing text with
  | case1 =>
      cases h
      rfl
  | case2 => cases h
  | case3 rest ih | case4 rest ih =>
      obtain ⟨text, htext, rfl⟩ := Option.map_eq_some_iff.1 h
      have hrest := ih htext
      simp only [Option.elim_none] at hrest ⊢
      rw [braces_cons, braces_cons, braces_cons]
      simp only [isBrace, beq_self_eq_true, Bool.true_or, Bool.or_true, if_true]
      omega
  | case5 c rest _ _ hopen ih =>
      have hrest := ih h
      rw [braces_cons, isBrace, hopen]
      simpa [braces, Nat.add_comm] using hrest
  | case6 => cases h
  | case7 c rest _ _ hopen hclose ih =>
      obtain ⟨text, htext, rfl⟩ := Option.map_eq_some_iff.1 h
      have hrest := ih htext
      have hbrace : isBrace c = false := by simp_all [isBrace]
      rw [braces_cons, braces_cons, hbrace]
      simpa using hrest
  | case8 done c rest hclose v text htext hname ih =>
      cases h
      have hrest := ih htext
      obtain ⟨hdone, hv⟩ := hvalue _ _ hname
      rw [braces, List.countP_reverse] at hdone
      rw [braces_append, hv, braces_cons, isBrace, hclose]
      simp only [Option.elim_none, Option.elim_some, braces, Bool.or_true, if_true] at hrest ⊢
      omega
  | case9 => cases h
  | case10 done c rest hclose ih =>
      have hrest := ih h
      simp only [Option.elim_some, braces_cons] at hrest ⊢
      omega

end Format

end TypedClient.Lexical
