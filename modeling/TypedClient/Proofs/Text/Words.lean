import Mathlib.Data.List.Infix
import TypedClient.Proofs.Text.Lines

/-!
# Words

The words of a text stand between its white space. Trimming a text and collapsing its blanks leaves
the words one space apart (`collapseBlanks_trim`), and doing so line by line gives the same as on
the whole text: a line break is a blank, and a line without words is left out (`joinWith_filter`).
-/

namespace TypedClient.Text

/-! ## Words -/

/-- The words of a text, between its white space. -/
def spacedWords (cs : List Char) : List (List Char) :=
  (splitAt isBlank cs).filter fun word => !word.isEmpty

theorem spacedWords_nil : spacedWords [] = [] := rfl

theorem ne_nil_of_mem_filter (pieces : List (List Char)) :
    ∀ piece ∈ pieces.filter (fun piece => !piece.isEmpty), piece ≠ [] := by
  intro piece hpiece
  simpa using (List.mem_filter.1 hpiece).2

section Words

variable {c : Char} {cs : List Char}

theorem spacedWords_cons_of_isBlank (hc : isBlank c = true) :
    spacedWords (c :: cs) = spacedWords cs := by
  rw [spacedWords, splitAt, if_pos hc]
  rfl

/-- A blank ends a word. -/
theorem spacedWords_append_cons (hc : isBlank c = true) (ds : List Char) :
    spacedWords (cs ++ c :: ds) = spacedWords cs ++ spacedWords ds := by
  rw [spacedWords, splitAt_append_cons hc, List.filter_append]
  rfl

theorem spacedWords_singleton (hc : isBlank c = false) : spacedWords [c] = [[c]] := by
  rw [spacedWords, splitAt_of_all_not (by simpa using hc)]
  rfl

theorem spacedWords_cons_cons (hc : isBlank c = false) {d : Char} (hd : isBlank d = true)
    (ds : List Char) : spacedWords (c :: d :: ds) = [c] :: spacedWords ds := by
  have hsplit : spacedWords ([c] ++ d :: ds) = spacedWords [c] ++ spacedWords ds :=
    spacedWords_append_cons hd ds
  rw [spacedWords_singleton hc] at hsplit
  exact hsplit

/-- A character is added to the word that follows at once. -/
theorem exists_spacedWords_cons_cons (hc : isBlank c = false) {d : Char} (hd : isBlank d = false)
    (cs : List Char) : ∃ word rest, spacedWords (d :: cs) = word :: rest ∧
      spacedWords (c :: d :: cs) = (c :: word) :: rest := by
  obtain ⟨piece, rest, hpieces⟩ := List.exists_cons_of_ne_nil (splitAt_ne_nil isBlank cs)
  have hd' : splitAt isBlank (d :: cs) = (d :: piece) :: rest := by simp [splitAt, hd, hpieces]
  have hc' : splitAt isBlank (c :: d :: cs) = (c :: d :: piece) :: rest := by
    rw [splitAt, hd']
    simp [hc]
  refine ⟨d :: piece, rest.filter fun word => !word.isEmpty, ?_, ?_⟩
  · rw [spacedWords, hd']
    rfl
  · rw [spacedWords, hc']
    rfl

theorem spacedWords_eq_nil_iff : spacedWords cs = [] ↔ ∀ c ∈ cs, isBlank c = true := by
  induction cs with
  | nil => simp [spacedWords_nil]
  | cons c cs ih =>
      rw [List.forall_mem_cons]
      cases hc : isBlank c with
      | true => rw [spacedWords_cons_of_isBlank hc, ih, eq_self_iff_true, true_and]
      | false =>
          refine iff_of_false (fun hnil => ?_) (by simp)
          cases cs with
          | nil =>
              rw [spacedWords_singleton hc] at hnil
              cases hnil
          | cons d ds =>
              cases hd : isBlank d with
              | true =>
                  rw [spacedWords_cons_cons hc hd] at hnil
                  cases hnil
              | false =>
                  obtain ⟨word, rest, -, hcons⟩ := exists_spacedWords_cons_cons hc hd ds
                  rw [hcons] at hnil
                  cases hnil

/-- The words of a text hold its characters but for the white space. -/
theorem flatten_spacedWords (cs : List Char) :
    (spacedWords cs).flatten = cs.filter fun c => !isBlank c := by
  rw [spacedWords, List.flatten_filter_not_isEmpty]
  induction cs with
  | nil => rfl
  | cons c cs ih =>
      rw [splitAt]
      split
      · next hc =>
          rw [List.flatten_cons, List.nil_append, ih, List.filter_cons_of_neg (by simp [hc])]
      · next hc =>
          rw [List.filter_cons_of_pos (by simp [hc]), ← ih]
          obtain ⟨piece, rest, hpieces⟩ := List.exists_cons_of_ne_nil (splitAt_ne_nil isBlank cs)
          rw [hpieces]
          rfl

theorem trimEnd_eq_nil_iff : trimEnd cs = [] ↔ ∀ c ∈ cs, isBlank c = true := by
  induction cs with
  | nil => simp [trimEnd_nil]
  | cons c cs ih =>
      rw [List.forall_mem_cons, ← ih, trimEnd]
      cases trimEnd cs with
      | nil => cases isBlank c <;> simp
      | cons d ds => simp

theorem trimEnd_cons (h : trimEnd cs ≠ []) : trimEnd (c :: cs) = c :: trimEnd cs := by
  obtain ⟨d, ds, hcs⟩ := List.exists_cons_of_ne_nil h
  rw [trimEnd, hcs]

theorem trim_cons_of_isBlank (hc : isBlank c = true) : trim (c :: cs) = trim cs := by
  rw [trim, trimStart, List.dropWhile_cons_of_pos hc]
  rfl

theorem trim_cons_of_not_isBlank (hc : isBlank c = false) : trim (c :: cs) = trimEnd (c :: cs) := by
  rw [trim, trimStart, List.dropWhile_cons_of_neg (by simp [hc])]

theorem collapseBlanks_cons (hc : isBlank c = false) (cs : List Char) :
    collapseBlanks (c :: cs) = c :: collapseBlanks cs := by
  cases cs <;> simp [collapseBlanks, hc]

/-- The blanks in front of a text that is not blank become one space. -/
theorem collapseBlanks_trimEnd_cons (hc : isBlank c = true) (h : trimEnd cs ≠ []) :
    collapseBlanks (trimEnd (c :: cs)) = ' ' :: collapseBlanks (trim cs) := by
  induction cs generalizing c with
  | nil => exact absurd rfl h
  | cons d ds ih =>
      rw [trimEnd_cons h]
      cases hd : isBlank d with
      | true =>
          have hds : trimEnd ds ≠ [] := by
            intro hnil
            refine h (trimEnd_eq_nil_iff.2 (List.forall_mem_cons.2 ⟨hd, ?_⟩))
            exact trimEnd_eq_nil_iff.1 hnil
          have hcollapse := ih hd hds
          rw [trimEnd_cons hds] at hcollapse ⊢
          rw [collapseBlanks, if_pos hc]
          simp only [hd, if_true]
          rw [hcollapse, trim_cons_of_isBlank hd]
      | false =>
          rw [trim_cons_of_not_isBlank hd]
          obtain ⟨rest, hrest⟩ : ∃ rest, trimEnd (d :: ds) = d :: rest := by
            by_cases hds : trimEnd ds = []
            · exact ⟨[], by rw [trimEnd, hds]; simp [hd]⟩
            · exact ⟨_, trimEnd_cons hds⟩
          rw [hrest, collapseBlanks, if_pos hc]
          simp only [hd, Bool.false_eq_true, if_false]

/-- Trimming a text and collapsing its blanks puts its words one space apart. -/
theorem collapseBlanks_trim (cs : List Char) :
    collapseBlanks (trim cs) = joinWith [' '] (spacedWords cs) := by
  induction cs with
  | nil => rfl
  | cons c cs ih =>
      cases hc : isBlank c with
      | true => rw [trim_cons_of_isBlank hc, spacedWords_cons_of_isBlank hc, ih]
      | false =>
          rw [trim_cons_of_not_isBlank hc]
          by_cases hcs : trimEnd cs = []
          · have hblank := trimEnd_eq_nil_iff.1 hcs
            have hwords : spacedWords (c :: cs) = [[c]] := by
              cases cs with
              | nil => exact spacedWords_singleton hc
              | cons d ds =>
                  rw [spacedWords_cons_cons hc (hblank d List.mem_cons_self),
                    spacedWords_eq_nil_iff.2 fun e he => hblank e (List.mem_cons_of_mem d he)]
            rw [hwords, trimEnd, hcs]
            simp [hc, collapseBlanks, joinWith]
          · rw [trimEnd_cons hcs]
            cases cs with
            | nil => exact absurd rfl hcs
            | cons d ds =>
                rw [collapseBlanks_cons hc]
                cases hd : isBlank d with
                | true =>
                    have hds : spacedWords ds ≠ [] := by
                      intro hnil
                      refine hcs (trimEnd_eq_nil_iff.2 (List.forall_mem_cons.2 ⟨hd, ?_⟩))
                      exact spacedWords_eq_nil_iff.1 hnil
                    have htrim : trimEnd ds ≠ [] := fun hnil =>
                      hds (spacedWords_eq_nil_iff.2 (trimEnd_eq_nil_iff.1 hnil))
                    rw [trim_cons_of_isBlank hd, spacedWords_cons_of_isBlank hd] at ih
                    rw [collapseBlanks_trimEnd_cons hd htrim, ih, spacedWords_cons_cons hc hd]
                    obtain ⟨word, rest, hwords⟩ := List.exists_cons_of_ne_nil hds
                    rw [hwords]
                    rfl
                | false =>
                    obtain ⟨word, rest, hwords, hcons⟩ := exists_spacedWords_cons_cons hc hd ds
                    rw [← trim_cons_of_not_isBlank hd, ih, hwords, hcons]
                    cases rest <;> rfl

end Words

/-! ## Words of lines -/

/-- Splitting pieces once more, at all characters of a larger class, splits the text at these. -/
theorem splitAt_eq_flatMap {isBreak isLess : Char → Bool}
    (h : ∀ c, isLess c = true → isBreak c = true) (cs : List Char) :
    splitAt isBreak cs = (splitAt isLess cs).flatMap (splitAt isBreak) := by
  induction cs with
  | nil => rfl
  | cons c cs ih =>
      cases hless : isLess c with
      | true => simp [splitAt, hless, h c hless, ih]
      | false =>
          obtain ⟨piece, rest, hpieces⟩ := List.exists_cons_of_ne_nil (splitAt_ne_nil isLess cs)
          obtain ⟨first, others, hfirst⟩ :=
            List.exists_cons_of_ne_nil (splitAt_ne_nil isBreak piece)
          have hcons : splitAt isLess (c :: cs) = (c :: piece) :: rest := by
            simp [splitAt, hless, hpieces]
          rw [hpieces, List.flatMap_cons, hfirst] at ih
          rw [hcons, List.flatMap_cons]
          cases hbreak : isBreak c <;> simp [splitAt, hbreak, ih, hfirst]

theorem spacedWords_eq_flatMap (isLess : Char → Bool) (h : ∀ c, isLess c = true → isBlank c = true)
    (cs : List Char) : spacedWords cs = (splitAt isLess cs).flatMap spacedWords := by
  rw [spacedWords, splitAt_eq_flatMap h, List.filter_flatMap]
  rfl

/-- Replacing characters that are no breaks by such that are none keeps the pieces. -/
theorem splitAt_map {isBreak : Char → Bool} {f : Char → Char} (h : ∀ c, isBreak (f c) = isBreak c)
    (cs : List Char) : splitAt isBreak (cs.map f) = (splitAt isBreak cs).map (List.map f) := by
  induction cs with
  | nil => rfl
  | cons c cs ih =>
      obtain ⟨piece, rest, hpieces⟩ := List.exists_cons_of_ne_nil (splitAt_ne_nil isBreak cs)
      rw [List.map_cons, splitAt, splitAt, h, ih, hpieces]
      cases isBreak c <;> rfl

section Lines

variable {f : Char → Char} (hf : ∀ c, isBlank c = true → f c = c)
include hf

/-- A carriage return at the end of a line belongs to no word. -/
theorem spacedWords_map_dropReturn (line : List Char) :
    spacedWords ((dropReturn line).map f) = spacedWords (line.map f) := by
  unfold dropReturn
  split
  · next hlast =>
      have hline : line = line.dropLast ++ ['\r'] := by
        rw [List.getLast?_eq_some_iff] at hlast
        obtain ⟨front, rfl⟩ := hlast
        rw [List.dropLast_concat]
      conv_rhs => rw [hline, List.map_append, List.map_singleton, hf '\r' (by decide)]
      rw [spacedWords_append_cons (by decide), spacedWords_nil, List.append_nil]
  · rfl

theorem flatMap_lines (cs : List Char) :
    (lines cs).flatMap (fun line => spacedWords (line.map f)) =
      (splitAt (· == '\n') cs).flatMap fun line => spacedWords (line.map f) := by
  obtain ⟨front, last, hpieces⟩ : ∃ front last, splitAt (· == '\n') cs = front ++ [last] :=
    ⟨_, _, (List.dropLast_append_getLast (splitAt_ne_nil (· == '\n') cs)).symm⟩
  have hlast :
      (if last.isEmpty then [] else [last]).flatMap (fun line => spacedWords (line.map f)) =
        [last].flatMap fun line => spacedWords (line.map f) := by
    cases last <;> rfl
  rw [lines, hpieces]
  simp only [List.dropLast_concat, List.getLast?_concat, Option.getD_some, List.flatMap_append,
    hlast, List.flatMap_map, spacedWords_map_dropReturn hf]

end Lines

/-! ## Words one space apart -/

theorem joinWith_cons_of_ne_nil (separator piece : List Char) {rest : List (List Char)}
    (h : rest ≠ []) :
    joinWith separator (piece :: rest) = piece ++ separator ++ joinWith separator rest := by
  obtain ⟨next, others, rfl⟩ := List.exists_cons_of_ne_nil h
  rfl

/-- A character that the separator does not hold comes from a part. -/
theorem mem_joinWith_iff {separator : List Char} {pieces : List (List Char)} {c : Char}
    (hc : c ∉ separator) : c ∈ joinWith separator pieces ↔ c ∈ pieces.flatten := by
  induction pieces with
  | nil => simp [joinWith]
  | cons piece rest ih =>
      by_cases hrest : rest = []
      · subst hrest
        simp [joinWith]
      · rw [joinWith_cons_of_ne_nil separator piece hrest, List.mem_append, List.mem_append,
          or_iff_left hc, ih, List.flatten_cons, List.mem_append]

theorem joinWith_append {separator : List Char} {xs ys : List (List Char)} (hxs : xs ≠ [])
    (hys : ys ≠ []) :
    joinWith separator (xs ++ ys) =
      joinWith separator xs ++ separator ++ joinWith separator ys := by
  induction xs with
  | nil => exact absurd rfl hxs
  | cons x xs ih =>
      cases xs with
      | nil => exact joinWith_cons_of_ne_nil separator x hys
      | cons x' xs =>
          have hne : x' :: xs ++ ys ≠ [] :=
            List.append_ne_nil_of_left_ne_nil (List.cons_ne_nil _ _) _
          rw [List.cons_append, joinWith_cons_of_ne_nil separator x hne, ih (List.cons_ne_nil _ _),
            joinWith_cons_of_ne_nil separator x (List.cons_ne_nil _ _)]
          simp only [List.append_assoc]

theorem joinWith_eq_nil_iff {separator : List Char} {words : List (List Char)}
    (h : ∀ word ∈ words, word ≠ []) : joinWith separator words = [] ↔ words = [] := by
  cases words with
  | nil => exact iff_of_true rfl rfl
  | cons word rest =>
      refine iff_of_false (fun hnil => h word List.mem_cons_self ?_) (List.cons_ne_nil _ _)
      cases rest with
      | nil => exact hnil
      | cons next rest =>
          rw [joinWith_cons_of_ne_nil separator word (List.cons_ne_nil _ _)] at hnil
          exact (List.append_eq_nil_iff.1 (List.append_eq_nil_iff.1 hnil).1).1

/-- Lists of words may be joined one by one, leaving out those without words. -/
theorem joinWith_filter {separator : List Char} {lists : List (List (List Char))}
    (h : ∀ words ∈ lists, ∀ word ∈ words, word ≠ []) :
    joinWith separator ((lists.map (joinWith separator)).filter fun line => !line.isEmpty) =
      joinWith separator lists.flatten := by
  induction lists with
  | nil => rfl
  | cons words lists ih =>
      rw [List.forall_mem_cons] at h
      by_cases hwords : words = []
      · subst hwords
        exact ih h.2
      · have hline : joinWith separator words ≠ [] := (joinWith_eq_nil_iff h.1).not.2 hwords
        rw [List.map_cons, List.filter_cons_of_pos (by simpa using hline), List.flatten_cons]
        have hkept : (lists.map (joinWith separator)).filter (fun line => !line.isEmpty) = [] ↔
            lists.flatten = [] := by
          rw [← joinWith_eq_nil_iff (ne_nil_of_mem_filter _), ih h.2, joinWith_eq_nil_iff]
          intro word hword
          obtain ⟨words', hwords', hword⟩ := List.mem_flatten.1 hword
          exact h.2 words' hwords' word hword
        by_cases hflatten : lists.flatten = []
        · rw [hkept.2 hflatten, hflatten, List.append_nil]
          rfl
        · rw [joinWith_cons_of_ne_nil separator _ (hkept.not.2 hflatten), ih h.2,
            joinWith_append hwords hflatten]

end TypedClient.Text
