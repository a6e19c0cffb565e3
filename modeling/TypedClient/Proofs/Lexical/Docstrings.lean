import Mathlib.Data.List.Infix
import TypedClient.Lexical.Docstring
import TypedClient.Proofs.Text.Replacement
import TypedClient.Proofs.Text.Words

/-!
# Texts between triple quotes

A long string ends at the first three quotes in a row that are not escaped. Whether a text can stand
in one is read off its units, which are escape sequences and single characters: no three of them in
a row may be quotes, and the last one may be neither a quote nor a backslash. Such a text is read as
one string unless it holds a null character, which no source text may hold (`readLong_of_isClosed`).
The units of an escaped text stand for its characters one by one (`map_unitChar_escapedUnits`), so
that reading it gives the text back (`escapeDocstring_append_spec`). The text of a summary is the
words of the summary, one space apart (`docstringWords_eq`).
-/

namespace TypedClient.Lexical

open TypedClient.Text

/-! ## Texts of summaries -/

/-- The characters that are not read as they stand. -/
def typographic : List Char := ['\u2018', '\u2019', '\u201c', '\u201d', '\u2013', '\u2014']

theorem plainPunctuation_of_not_mem {c : Char} (h : c ∉ typographic) : plainPunctuation c = c := by
  simp only [typographic, List.mem_cons, List.not_mem_nil, or_false, not_or] at h
  obtain ⟨h1, h2, h3, h4, h5, h6⟩ := h
  simp [plainPunctuation, h1, h2, h3, h4, h5, h6]

theorem plainPunctuation_of_isBlank {c : Char} (h : isBlank c = true) : plainPunctuation c = c := by
  refine plainPunctuation_of_not_mem fun hc => ?_
  have hmarks := List.all_eq_true.1
    (by decide : (typographic.all fun c => !isBlank c) = true) c hc
  rw [h] at hmarks
  cases hmarks

theorem plainPunctuation_eq_newline (c : Char) : (plainPunctuation c == '\n') = (c == '\n') := by
  by_cases hc : c ∈ typographic
  · have hmarks := List.all_eq_true.1 (by decide :
      (typographic.all fun c => (plainPunctuation c == '\n') == (c == '\n')) = true) c hc
    exact eq_of_beq hmarks
  · rw [plainPunctuation_of_not_mem hc]

/-- A summary is read as its words, one space apart. -/
theorem docstringWords_eq (cs : List Char) :
    docstringWords cs = joinWith [' '] (spacedWords (cs.map plainPunctuation)) := by
  have hline : docstringLine =
      fun line => joinWith [' '] (spacedWords (line.map plainPunctuation)) :=
    funext fun line => collapseBlanks_trim _
  have hlines : (lines cs).map docstringLine =
      ((lines cs).map fun line =>
        spacedWords (line.map plainPunctuation)).map (joinWith [' ']) := by
    rw [hline, List.map_map]
    rfl
  have hwords : ∀ words ∈ (lines cs).map (fun line => spacedWords (line.map plainPunctuation)),
      ∀ word ∈ words, word ≠ [] := by
    intro words hmem word hword
    obtain ⟨line, -, rfl⟩ := List.mem_map.1 hmem
    exact ne_nil_of_mem_filter _ word hword
  rw [docstringWords, hlines, joinWith_filter hwords, ← List.flatMap_def,
    flatMap_lines fun _ => plainPunctuation_of_isBlank,
    spacedWords_eq_flatMap (· == '\n') (fun c hc => by rw [eq_of_beq hc]; rfl),
    splitAt_map plainPunctuation_eq_newline, List.flatMap_map]

/-! ## Long strings -/

/-- The quotes that begin and end a long string. -/
def longQuotes : List Char := ['"', '"', '"']

/-- Reads a long string behind its first quotes: what it says, and what stands behind its last
quotes. The only escape sequences are those for backslashes and quotes. Source text holds no null
character. -/
def readLong : List Char → Option (List Char × List Char)
  | '"' :: '"' :: '"' :: rest => some ([], rest)
  | '\\' :: '\\' :: cs => (readLong cs).map fun r => ('\\' :: r.1, r.2)
  | '\\' :: '"' :: cs => (readLong cs).map fun r => ('"' :: r.1, r.2)
  | '\\' :: _ => none
  | '\x00' :: _ => none
  | c :: cs => (readLong cs).map fun r => (c :: r.1, r.2)
  | [] => none

/-- The units of a text: its escape sequences, and the characters that belong to none. -/
def units : List Char → List (List Char)
  | '\\' :: c :: cs => ['\\', c] :: units cs
  | c :: cs => [c] :: units cs
  | [] => []

/-- The text can stand between the quotes of a long string: no three quotes in a row end it early,
and neither a quote nor a backslash at its end belongs to the quotes behind it. -/
structure IsClosed (cs : List Char) : Prop where
  no_quotes : ¬[['"'], ['"'], ['"']] <:+: units cs
  last_ne_quote : (units cs).getLast? ≠ some ['"']
  last_ne_backslash : (units cs).getLast? ≠ some ['\\']

/-- The unit stands for a character: itself, or a backslash or quote that is escaped. -/
def IsPlainUnit (u : List Char) : Prop :=
  (∃ c, c ≠ '\\' ∧ u = [c]) ∨ u = ['\\', '\\'] ∨ u = ['\\', '"']

/-- What a unit stands for. -/
def unitChar (u : List Char) : Char := u.getLast?.getD ' '

theorem flatten_units (cs : List Char) : (units cs).flatten = cs := by
  fun_induction units cs with
  | case1 c cs ih => simp [ih]
  | case2 c cs _ ih => simp [ih]
  | case3 => rfl

theorem units_cons {c : Char} (hc : c ≠ '\\') (cs : List Char) :
    units (c :: cs) = [c] :: units cs := by
  rw [units]
  intro d ds hd
  exact absurd hd hc

theorem units_flatten {us : List (List Char)} (h : ∀ u ∈ us, IsPlainUnit u) :
    units us.flatten = us := by
  induction us with
  | nil => rfl
  | cons u us ih =>
      rw [List.forall_mem_cons] at h
      rw [List.flatten_cons]
      rcases h.1 with ⟨c, hc, rfl⟩ | rfl | rfl
      · rw [List.singleton_append, units_cons hc, ih h.2]
      · rw [List.cons_append, List.singleton_append, units, ih h.2]
      · rw [List.cons_append, List.singleton_append, units, ih h.2]

/-- A text ends in the character that its last unit stands for. -/
theorem getLast?_flatten {us : List (List Char)} (h : ∀ u ∈ us, IsPlainUnit u) :
    us.flatten.getLast? = (us.map unitChar).getLast? := by
  induction us with
  | nil => rfl
  | cons u us ih =>
      rw [List.forall_mem_cons] at h
      have hu : u.getLast? = some (unitChar u) := by
        rcases h.1 with ⟨c, -, rfl⟩ | rfl | rfl <;> rfl
      rw [List.flatten_cons, List.getLast?_append, ih h.2, hu, List.map_cons, List.getLast?_cons]
      cases (us.map unitChar).getLast? <;> rfl

theorem readLong_cons {c : Char} {cs : List Char} (hc : c ≠ '\\') (hnull : c ≠ '\x00')
    (h : ¬longQuotes <+: c :: cs) :
    readLong (c :: cs) = (readLong cs).map fun r => (c :: r.1, r.2) := by
  rw [readLong]
  · rintro rest rfl rfl
    exact h (List.prefix_append longQuotes rest)
  · exact fun _ hc' => absurd hc' hc
  · exact fun _ hc' => absurd hc' hc
  · exact fun hc' => absurd hc' hc
  · exact hnull

/-- A quote in front is a unit of its own. -/
theorem eq_quote_of_in_front {u cs ds : List Char} (hu : IsPlainUnit u)
    (h : '"' :: cs <+: u ++ ds) : u = ['"'] ∧ cs <+: ds := by
  rcases hu with ⟨c, -, rfl⟩ | rfl | rfl
  · obtain ⟨rfl, hcs⟩ := List.cons_prefix_cons.1 h
    exact ⟨rfl, hcs⟩
  · exact absurd (List.cons_prefix_cons.1 h).1 (by decide)
  · exact absurd (List.cons_prefix_cons.1 h).1 (by decide)

section Reading

variable {us : List (List Char)} {u : List Char}

theorem getLast?_ne_of_cons {a : List Char} (h : (u :: us).getLast? ≠ some a) :
    us.getLast? ≠ some a := by
  cases us with
  | nil => simp
  | cons v us => rwa [List.getLast?_cons_cons] at h

/-- Where the units of a text neither hold three quotes in a row nor end in a quote, the text does
not go on with three quotes in front of those that end it. -/
theorem not_longQuotes_in_front (h : ∀ v ∈ u :: us, IsPlainUnit v)
    (hquotes : ¬[['"'], ['"'], ['"']] <:+: u :: us) (hlast : (u :: us).getLast? ≠ some ['"'])
    (ds : List Char) : ¬longQuotes <+: u ++ (us.flatten ++ ds) := by
  intro hfirst
  rw [List.forall_mem_cons] at h
  obtain ⟨rfl, hsecond⟩ := eq_quote_of_in_front h.1 hfirst
  cases us with
  | nil => exact hlast rfl
  | cons v us =>
      rw [List.flatten_cons, List.append_assoc] at hsecond
      obtain ⟨rfl, hthird⟩ := eq_quote_of_in_front (h.2 v List.mem_cons_self) hsecond
      cases us with
      | nil => exact hlast rfl
      | cons w us =>
          have hw : w ∈ ['"'] :: w :: us := List.mem_cons_of_mem _ List.mem_cons_self
          rw [List.flatten_cons, List.append_assoc] at hthird
          obtain ⟨rfl, -⟩ := eq_quote_of_in_front (h.2 w hw) hthird
          exact hquotes (List.prefix_append _ us).isInfix

/-- A long string is read up to the quotes behind its units, unless one is a null character. -/
theorem readLong_flatten (h : ∀ v ∈ us, IsPlainUnit v)
    (hquotes : ¬[['"'], ['"'], ['"']] <:+: us) (hlast : us.getLast? ≠ some ['"'])
    (rest : List Char) :
    readLong (us.flatten ++ (longQuotes ++ rest)) =
      if ['\x00'] ∈ us then none else some (us.map unitChar, rest) := by
  induction us with
  | nil => rfl
  | cons u us ih =>
      have hrest := ih (fun v hv => h v (List.mem_cons_of_mem u hv))
        (fun hwithin => hquotes (hwithin.trans (List.infix_cons (List.infix_refl us))))
        (getLast?_ne_of_cons hlast)
      have hfront := not_longQuotes_in_front h hquotes hlast (longQuotes ++ rest)
      rw [List.flatten_cons, List.append_assoc, List.map_cons]
      rcases h u List.mem_cons_self with ⟨c, hc, rfl⟩ | rfl | rfl
      · rw [List.singleton_append] at hfront ⊢
        by_cases hnull : c = '\x00'
        · subst hnull
          rw [readLong, if_pos List.mem_cons_self]
        · have hmem : ['\x00'] ∈ [c] :: us ↔ ['\x00'] ∈ us := by simp [Ne.symm hnull]
          rw [readLong_cons hc hnull hfront, hrest]
          simp only [hmem]
          split <;> rfl
      · rw [List.cons_append, List.singleton_append, readLong, hrest]
        simp only [List.mem_cons, List.cons.injEq, reduceCtorEq, and_false, false_or]
        split <;> rfl
      · rw [List.cons_append, List.singleton_append, readLong, hrest]
        simp only [List.mem_cons, List.cons.injEq, reduceCtorEq, and_false, false_or]
        split <;> rfl

end Reading

/-- A closed text without other escape sequences is read as one long string, unless it holds a null
character. -/
theorem readLong_of_isClosed {cs : List Char} (h : IsClosed cs)
    (hunits : ∀ u ∈ units cs, IsPlainUnit u) (rest : List Char) :
    readLong (cs ++ (longQuotes ++ rest)) =
      if ['\x00'] ∈ units cs then none else some ((units cs).map unitChar, rest) := by
  conv_lhs => rw [← flatten_units cs]
  exact readLong_flatten hunits h.no_quotes h.last_ne_quote rest

/-! ## Escaped texts -/

/-- The units of an escaped text. -/
def escapedUnits : List Char → List (List Char)
  | '"' :: '"' :: '"' :: cs => ['\\', '"'] :: ['\\', '"'] :: ['\\', '"'] :: escapedUnits cs
  | '\\' :: cs => ['\\', '\\'] :: escapedUnits cs
  | c :: cs => [c] :: escapedUnits cs
  | [] => []

theorem isPlainUnit_of_mem_escapedUnits {u cs : List Char} (h : u ∈ escapedUnits cs) :
    IsPlainUnit u := by
  fun_induction escapedUnits cs with
  | case1 cs ih =>
      simp only [List.mem_cons] at h
      rcases h with rfl | rfl | rfl | h
      · exact .inr (.inr rfl)
      · exact .inr (.inr rfl)
      · exact .inr (.inr rfl)
      · exact ih h
  | case2 cs ih =>
      rcases List.mem_cons.1 h with rfl | h
      · exact .inr (.inl rfl)
      · exact ih h
  | case3 c cs _ hc ih =>
      rcases List.mem_cons.1 h with rfl | h
      · exact .inl ⟨c, hc, rfl⟩
      · exact ih h
  | case4 => cases h

/-- The units stand for the characters that are escaped. -/
theorem map_unitChar_escapedUnits (cs : List Char) : (escapedUnits cs).map unitChar = cs := by
  fun_induction escapedUnits cs with
  | case1 cs ih => rw [List.map_cons, List.map_cons, List.map_cons, ih]; rfl
  | case2 cs ih => rw [List.map_cons, ih]; rfl
  | case3 c cs _ _ ih => rw [List.map_cons, ih]; rfl
  | case4 => rfl

/-- A null character is a unit of its own. -/
theorem mem_escapedUnits_null {cs : List Char} : ['\x00'] ∈ escapedUnits cs ↔ '\x00' ∈ cs := by
  fun_induction escapedUnits cs with
  | case1 cs ih => simp [ih]
  | case2 cs ih => simp [ih]
  | case3 c cs _ _ ih => simp [ih]
  | case4 => simp

/-- A quote in front of the units is one in front of the text: an escaped one is no unit of its
own. -/
theorem exists_of_prefix_escapedUnits {cs : List Char} {vs ys : List (List Char)} (hys : ['"'] ∉ ys)
    (h : ['"'] :: vs <+: escapedUnits cs ++ ys) :
    ∃ ds, cs = '"' :: ds ∧ vs <+: escapedUnits ds ++ ys := by
  revert h
  fun_cases escapedUnits cs with
  | case1 cs =>
      intro h
      exact absurd (List.cons_prefix_cons.1 h).1 (by decide)
  | case2 cs =>
      intro h
      exact absurd (List.cons_prefix_cons.1 h).1 (by decide)
  | case3 c cs =>
      intro h
      obtain ⟨hc, hvs⟩ := List.cons_prefix_cons.1 h
      cases hc
      exact ⟨cs, rfl, hvs⟩
  | case4 =>
      intro h
      exact absurd (h.subset List.mem_cons_self) hys

/-- No three quotes in a row stay as they are, whatever other characters follow. -/
theorem not_quotes_infix_escapedUnits (cs : List Char) {ys : List (List Char)} (hys : ['"'] ∉ ys) :
    ¬[['"'], ['"'], ['"']] <:+: escapedUnits cs ++ ys := by
  fun_induction escapedUnits cs with
  | case1 cs ih =>
      simp only [List.cons_append, List.infix_cons_iff, List.cons_prefix_cons]
      simpa using ih
  | case2 cs ih =>
      simp only [List.cons_append, List.infix_cons_iff, List.cons_prefix_cons]
      simpa using ih
  | case3 c cs hquotes hc ih =>
      rw [List.cons_append, List.infix_cons_iff]
      rintro (hfront | hwithin)
      · obtain ⟨hfirst, hsecond⟩ := List.cons_prefix_cons.1 hfront
        cases hfirst
        obtain ⟨ds, rfl, hthird⟩ := exists_of_prefix_escapedUnits hys hsecond
        obtain ⟨es, rfl, -⟩ := exists_of_prefix_escapedUnits hys hthird
        exact hquotes es rfl rfl
      · exact ih hwithin
  | case4 =>
      intro hwithin
      exact hys (hwithin.subset List.mem_cons_self)

/-- Every backslash twice. -/
def doubled (cs : List Char) : List Char := replaceAll ['\\'] ['\\', '\\'] cs

theorem doubled_backslash (cs : List Char) : doubled ('\\' :: cs) = '\\' :: '\\' :: doubled cs :=
  replaceAll_append (List.cons_ne_nil _ _) cs

theorem doubled_cons {c : Char} (hc : c ≠ '\\') (cs : List Char) :
    doubled (c :: cs) = c :: doubled cs :=
  replaceAll_cons fun h => hc (List.cons_prefix_cons.1 h).1.symm

/-- Doubling the backslashes neither adds nor moves quotes. -/
theorem exists_of_prefix_doubled {word cs : List Char} (h : '"' :: word <+: doubled cs) :
    ∃ ds, cs = '"' :: ds ∧ word <+: doubled ds := by
  cases cs with
  | nil => exact absurd (List.prefix_nil.1 h) (List.cons_ne_nil _ _)
  | cons c cs =>
      by_cases hc : c = '\\'
      · subst hc
        rw [doubled_backslash] at h
        exact absurd (List.cons_prefix_cons.1 h).1 (by decide)
      · rw [doubled_cons hc] at h
        obtain ⟨rfl, hword⟩ := List.cons_prefix_cons.1 h
        exact ⟨cs, rfl, hword⟩

theorem escapeDocstring_eq (cs : List Char) : escapeDocstring cs = (escapedUnits cs).flatten := by
  change replaceAll longQuotes ['\\', '"', '\\', '"', '\\', '"'] (doubled cs) = _
  fun_induction escapedUnits cs with
  | case1 cs ih =>
      rw [doubled_cons (by decide), doubled_cons (by decide), doubled_cons (by decide)]
      change replaceAll longQuotes _ (longQuotes ++ doubled cs) = _
      rw [replaceAll_append (by decide), ih]
      rfl
  | case2 cs ih =>
      have hmiss : ∀ ds, ¬longQuotes <+: '\\' :: ds := fun ds h =>
        absurd (List.cons_prefix_cons.1 h).1 (by decide)
      rw [doubled_backslash, replaceAll_cons (hmiss _), replaceAll_cons (hmiss _), ih]
      rfl
  | case3 c cs hquotes hc ih =>
      have hmiss : ¬longQuotes <+: c :: doubled cs := by
        intro hfront
        obtain ⟨rfl, hsecond⟩ := List.cons_prefix_cons.1 hfront
        obtain ⟨ds, rfl, hthird⟩ := exists_of_prefix_doubled hsecond
        obtain ⟨es, rfl, -⟩ := exists_of_prefix_doubled hthird
        exact hquotes es rfl rfl
      rw [doubled_cons hc, replaceAll_cons hmiss, ih]
      rfl
  | case4 => rfl

/-- Escaping changes no last character. -/
theorem getLast?_escapeDocstring (cs : List Char) :
    (escapeDocstring cs).getLast? = cs.getLast? := by
  rw [escapeDocstring_eq, getLast?_flatten fun _ => isPlainUnit_of_mem_escapedUnits,
    map_unitChar_escapedUnits]

/-- An escaped text can stand between the quotes of a long string and is read as the text itself,
with anything behind it that holds neither quotes nor backslashes, unless it holds a null character.
Only a quote at its end needs something behind it. -/
theorem escapeDocstring_append_spec {cs suffix : List Char}
    (hsuffix : ∀ c ∈ suffix, c ≠ '"' ∧ c ≠ '\\') (hlast : suffix = [] → cs.getLast? ≠ some '"') :
    IsClosed (escapeDocstring cs ++ suffix) ∧
      ∀ rest, readLong (escapeDocstring cs ++ suffix ++ (longQuotes ++ rest)) =
        if '\x00' ∈ cs ++ suffix then none else some (cs ++ suffix, rest) := by
  have hflatten : escapeDocstring cs ++ suffix =
      (escapedUnits cs ++ suffix.map fun c => [c]).flatten := by
    rw [escapeDocstring_eq, List.flatten_append, ← List.flatMap_def, List.flatMap_singleton']
  have hplain : ∀ u ∈ escapedUnits cs ++ suffix.map fun c => [c], IsPlainUnit u := by
    intro u hu
    rcases List.mem_append.1 hu with hu | hu
    · exact isPlainUnit_of_mem_escapedUnits hu
    · obtain ⟨c, hc, rfl⟩ := List.mem_map.1 hu
      exact .inl ⟨c, (hsuffix c hc).2, rfl⟩
  have hunits := units_flatten hplain
  rw [← hflatten] at hunits
  have hchars : (units (escapeDocstring cs ++ suffix)).map unitChar = cs ++ suffix := by
    rw [hunits, List.map_append, map_unitChar_escapedUnits, List.map_map]
    exact congrArg (cs ++ ·) (List.map_id suffix)
  have hclosed : IsClosed (escapeDocstring cs ++ suffix) := by
    refine ⟨?_, ?_, ?_⟩
    · rw [hunits]
      refine not_quotes_infix_escapedUnits cs fun hmem => ?_
      obtain ⟨c, hc, heq⟩ := List.mem_map.1 hmem
      exact (hsuffix c hc).1 (List.cons.inj heq).1
    · intro h
      have hend : (cs ++ suffix).getLast? = some '"' := by
        rw [← hchars, List.getLast?_map, h]
        rfl
      cases suffix with
      | nil => exact hlast rfl (by rwa [List.append_nil] at hend)
      | cons c suffix =>
          rw [List.getLast?_append_of_ne_nil _ (List.cons_ne_nil _ _)] at hend
          exact (hsuffix _ (List.mem_of_getLast? hend)).1 rfl
    · intro h
      have hmem := List.mem_of_getLast? h
      rw [hunits] at hmem
      rcases hplain _ hmem with ⟨c, hc, heq⟩ | heq | heq
      · exact hc (List.cons.inj heq).1.symm
      · cases heq
      · cases heq
  have hnull : ['\x00'] ∈ units (escapeDocstring cs ++ suffix) ↔ '\x00' ∈ cs ++ suffix := by
    rw [hunits, List.mem_append, mem_escapedUnits_null, List.mem_append]
    simp
  refine ⟨hclosed, fun rest => ?_⟩
  rw [readLong_of_isClosed hclosed (by rwa [hunits]), hchars]
  simp only [hnull]

end TypedClient.Lexical
