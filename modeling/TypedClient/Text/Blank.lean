/-!
# Blank characters, lines and words

White space is the `White_Space` property of the Unicode standard.  Trimming, the splitting of a
text into lines and the collapsing of blank runs all use this one set.
-/

namespace TypedClient.Text

/-- Whether the character is white space. -/
def isBlank (c : Char) : Bool :=
  let n := c.toNat
  (9 ≤ n && n ≤ 13) || n == 0x20 || n == 0x85 || n == 0xA0 || n == 0x1680 ||
  (0x2000 ≤ n && n ≤ 0x200A) || n == 0x2028 || n == 0x2029 || n == 0x202F || n == 0x205F ||
  n == 0x3000

/-- Core's ASCII white space is white space here. -/
theorem isBlank_of_isWhitespace {c : Char} (h : c.isWhitespace = true) : isBlank c = true := by
  simp only [Char.isWhitespace, Bool.or_eq_true, decide_eq_true_eq] at h
  rcases h with ((h | h) | h) | h <;> subst h <;> decide

/-- The text without its leading white space. -/
def trimStart (cs : List Char) : List Char := cs.dropWhile isBlank

/-- The text without its trailing white space. -/
def trimEnd : List Char → List Char
  | [] => []
  | c :: cs =>
    match trimEnd cs with
    | [] => if isBlank c then [] else [c]
    | d :: ds => c :: d :: ds

/-- The text without white space at either end. -/
def trim (cs : List Char) : List Char := trimEnd (trimStart cs)

theorem trimEnd_nil : trimEnd [] = [] := rfl

/-- Trailing white space goes, up to the last character that is none. -/
theorem trimEnd_append_blank (cs : List Char) {c : Char} (h : isBlank c = true) :
    trimEnd (cs ++ [c]) = trimEnd cs := by
  induction cs with
  | nil => simp [trimEnd, h]
  | cons d ds ih => simp [trimEnd, ih]

/-- Every run of white space becomes one space. -/
def collapseBlanks : List Char → List Char
  | [] => []
  | c :: cs =>
    if isBlank c then
      match cs with
      | [] => [' ']
      | d :: _ => if isBlank d then collapseBlanks cs else ' ' :: collapseBlanks cs
    else c :: collapseBlanks cs

/-- The pieces of a text between the characters that satisfy the test. -/
def splitAt (isBreak : Char → Bool) : List Char → List (List Char)
  | [] => [[]]
  | c :: cs =>
    if isBreak c then [] :: splitAt isBreak cs
    else
      match splitAt isBreak cs with
      | [] => [[c]]
      | piece :: rest => (c :: piece) :: rest

theorem splitAt_nil (isBreak : Char → Bool) : splitAt isBreak [] = [[]] := rfl

theorem splitAt_ne_nil (isBreak : Char → Bool) (cs : List Char) : splitAt isBreak cs ≠ [] := by
  cases cs with
  | nil => simp [splitAt]
  | cons c cs =>
    unfold splitAt
    split
    · simp
    · split <;> simp

/-- A text without a break is one piece. -/
theorem splitAt_of_all_not {isBreak : Char → Bool} {cs : List Char}
    (h : ∀ c ∈ cs, isBreak c = false) : splitAt isBreak cs = [cs] := by
  induction cs with
  | nil => rfl
  | cons c cs ih =>
    have hc := h c (by simp)
    have hcs := ih fun d hd => h d (by simp [hd])
    simp [splitAt, hc, hcs]

/-- A break divides the pieces in front of it from those behind it. -/
theorem splitAt_append_cons {isBreak : Char → Bool} {c : Char} (hc : isBreak c = true)
    (cs ds : List Char) :
    splitAt isBreak (cs ++ c :: ds) = splitAt isBreak cs ++ splitAt isBreak ds := by
  induction cs with
  | nil => simp [splitAt, hc]
  | cons d cs ih =>
    cases hd : isBreak d with
    | true => simp [splitAt, hd, ih]
    | false =>
      obtain ⟨piece, rest, hpieces⟩ := List.exists_cons_of_ne_nil (splitAt_ne_nil isBreak cs)
      simp [splitAt, hd, ih, hpieces]

/-- A carriage return before a line feed belongs to the line break. -/
def dropReturn (line : List Char) : List Char :=
  match line.getLast? with
  | some '\r' => line.dropLast
  | _ => line

/-- The lines of a text.  A line feed ends a line, so a final one opens no further line, and only
a line that is ended by a line feed gives up a carriage return. -/
def lines (cs : List Char) : List (List Char) :=
  let pieces := splitAt (· == '\n') cs
  let last := pieces.getLast?.getD []
  pieces.dropLast.map dropReturn ++ (if last.isEmpty then [] else [last])

/-- The texts one after another with a separator between them. -/
def joinWith (separator : List Char) : List (List Char) → List Char
  | [] => []
  | [piece] => piece
  | piece :: rest => piece ++ separator ++ joinWith separator rest

/-- The parts of `cs` in front of the first occurrence of `word` and behind it. -/
def cutAt (word : List Char) : List Char → Option (List Char × List Char)
  | [] => if word.isEmpty then some ([], []) else none
  | c :: cs =>
    if word.isPrefixOf (c :: cs) then some ([], (c :: cs).drop word.length)
    else (cutAt word cs).map fun (before, after) => (c :: before, after)

/-- What follows `start`, if the text begins with it. -/
def dropStart? (start cs : List Char) : Option (List Char) :=
  if start.isPrefixOf cs then some (cs.drop start.length) else none

/-- Whether `word` occurs in the text. -/
def occursIn (word cs : List Char) : Bool := (cutAt word cs).isSome

/-- Replaces every occurrence of a nonempty `word`, from the left and without overlap. -/
def replaceAll (word replacement : List Char) (cs : List Char) : List Char :=
  go cs 0
where
  /-- `skip` counts the characters of the last occurrence that are still to be passed over. -/
  go : List Char → Nat → List Char
    | [], _ => []
    | _ :: cs, skip + 1 => go cs skip
    | c :: cs, 0 =>
      if !word.isEmpty && word.isPrefixOf (c :: cs) then
        replacement ++ go cs (word.length - 1)
      else c :: go cs 0

theorem replaceAll_nil (word replacement : List Char) : replaceAll word replacement [] = [] := rfl

end TypedClient.Text
