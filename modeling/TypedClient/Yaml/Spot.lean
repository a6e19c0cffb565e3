/-!
# Characters in their places

Indentation decides in a YAML text, so every character is kept with its place.  Line ends are one
character each: a carriage return, alone or before a line feed, and the next-line character count
as a line feed, while the line and paragraph separators stay what they are.
-/

namespace TypedClient.Yaml

/-- A character with its place in the text, counted from zero. -/
structure Spot where
  char : Char
  line : Nat
  column : Nat
  index : Nat

/-! ## Classes of characters -/

/-- Whether a character may stand in a text. -/
def isAllowed (c : Char) : Bool :=
  let n := c.toNat
  n == 0x09 || n == 0x0A || n == 0x0D || (0x20 ≤ n && n ≤ 0x7E) || n == 0x85 ||
  (0xA0 ≤ n && n ≤ 0xD7FF) || (0xE000 ≤ n && n ≤ 0xFFFD) || 0x10000 ≤ n

/-- Line ends. -/
def isBreak (c : Char) : Bool := c == '\n' || c == '\u2028' || c == '\u2029'

/-- Blanks within a line. -/
def isGap (c : Char) : Bool := c == ' ' || c == '\t'

/-- Characters of anchors, handles and directives. -/
def isNameChar (c : Char) : Bool := c.isAlphanum || c == '_' || c == '-'

/-- Characters that open, close or separate flow collections. -/
def isFlowMark (c : Char) : Bool :=
  c == ',' || c == '[' || c == ']' || c == '\x7b' || c == '\x7d'

/-- Whether a blank, a line end or the end of the text follows. -/
def atBlank : List Spot → Bool
  | [] => true
  | s :: _ => isGap s.char || isBreak s.char

/-- Whether a line end or the end of the text follows. -/
def atLineEnd : List Spot → Bool
  | [] => true
  | s :: _ => isBreak s.char

/-- Whether the text goes on with the character. -/
def startsWith (c : Char) : List Spot → Bool
  | [] => false
  | s :: _ => s.char == c

theorem atBlank_nil : atBlank [] = true := rfl

theorem atBlank_cons (s : Spot) (rest : List Spot) :
    atBlank (s :: rest) = (isGap s.char || isBreak s.char) := rfl

/-- A line end counts as a blank. -/
theorem atBlank_of_atLineEnd {spots : List Spot} (h : atLineEnd spots = true) :
    atBlank spots = true := by
  cases spots with
  | nil => rfl
  | cons s rest => simp [atLineEnd] at h; simp [atBlank, h]

/-- Whether the three characters given stand at the start of a line, with a blank behind them. -/
def atMark (c : Char) : List Spot → Bool
  | a :: b :: d :: rest =>
    a.column == 0 && a.char == c && b.char == c && d.char == c && atBlank rest
  | _ => false

/-- Whether a mark between documents follows. -/
def atDocumentMark (spots : List Spot) : Bool := atMark '-' spots || atMark '.' spots

/-! ## Places -/

/-- Makes every line end one character. -/
def unifyBreaks : List Char → List Char
  | [] => []
  | '\r' :: '\n' :: cs => '\n' :: unifyBreaks cs
  | c :: cs => (if c == '\r' || c == '\x85' then '\n' else c) :: unifyBreaks cs

/-- Gives the characters their places, starting from one. -/
def placed (line column index : Nat) : List Char → List Spot
  | [] => []
  | c :: cs =>
    ⟨c, line, column, index⟩ ::
      if isBreak c then placed (line + 1) 0 (index + 1) cs
      else placed line (column + 1) (index + 1) cs

theorem placed_nil (line column index : Nat) : placed line column index [] = [] := rfl

/-- Places add nothing to the characters. -/
theorem map_char_placed (line column index : Nat) (cs : List Char) :
    (placed line column index cs).map Spot.char = cs := by
  induction cs generalizing line column index with
  | nil => rfl
  | cons c cs ih =>
    simp only [placed, List.map_cons]
    split <;> simp [ih]

/-- The characters of a text in their places; `none` if one of them may not stand there. -/
def spots? (text : String) : Option (List Spot) :=
  if text.toList.all isAllowed then some (placed 0 0 0 (unifyBreaks text.toList)) else none

end TypedClient.Yaml
