import TypedClient.Text.Hex

/-!
# TOML strings

A string stands between quotes, once or three times.  Double quotes allow escapes and single ones
do not; three of either allow line ends, and up to two quotes may stand next to the closing ones.
Line ends are line feeds here.
-/

namespace TypedClient.Toml

/-- Characters that may stand in a text or comment. -/
def isTextChar (c : Char) : Bool := c == '\t' || (0x20 ≤ c.toNat && c.toNat != 0x7F)

/-- Blanks within a line. -/
def isGap (c : Char) : Bool := c == ' ' || c == '\t'

/-- Where the reader of a string stands. -/
inductive Reading where
  | outside
  /-- Behind a backslash. -/
  | opened
  /-- Inside the digits of a code point, with so many still to come. -/
  | digits (left value : Nat)
  /-- Behind a backslash that joins lines, with the line end read or still to come. -/
  | joining (lineEnd : Bool)

/-- The character of a one-letter escape. -/
def escapeChar? (c : Char) : Option Char :=
  match c with
  | 'b' => some '\x08'
  | 't' => some '\t'
  | 'n' => some '\n'
  | 'f' => some '\x0c'
  | 'r' => some '\r'
  | '"' => some '"'
  | '\\' => some '\\'
  | _ => none

/-- The number of digits behind the letter of a code-point escape. -/
def escapeDigits? (c : Char) : Option Nat :=
  if c == 'u' then some 4 else if c == 'U' then some 8 else none

/-- Takes one character inside an escape: the character that the escape stands for, if it is
complete, and where the reader stands then. -/
def escapeStep? (multiLine : Bool) (r : Reading) (c : Char) : Option (Option Char × Reading) :=
  match r with
  | .outside => none
  | .joining lineEnd =>
    if isGap c then some (none, .joining lineEnd)
    else if c == '\n' then some (none, .joining true)
    else none
  | .opened =>
    if multiLine && (isGap c || c == '\n') then some (none, .joining (c == '\n'))
    else
      match escapeDigits? c with
      | some n => some (none, .digits n 0)
      | none => (escapeChar? c).map fun d => (some d, .outside)
  | .digits left value =>
    match Text.hexValue? c with
    | none => none
    | some d =>
      let value := value * 16 + d
      if 1 < left then some (none, .digits (left - 1) value)
      else if value.isValidChar then some (some (Char.ofNat value), .outside)
      else none

/-- Whether a character belongs to what an escape has begun. -/
def isInEscape (r : Reading) (c : Char) : Bool :=
  match r with
  | .outside => false
  | .joining true => isGap c || c == '\n'
  | _ => true

/-- Reads a string within one line up to its closing quote: its text and what follows. -/
def shortString? (quote : Char) (r : Reading) : List Char → Option (List Char × List Char)
  | [] => none
  | c :: cs =>
    if isInEscape r c then
      match escapeStep? false r c with
      | some (d, next) =>
        (shortString? quote next cs).map fun (text, rest) => (d.toList ++ text, rest)
      | none => none
    else if c == quote then some ([], cs)
    else if c == '\\' && quote == '"' then shortString? quote .opened cs
    else if isTextChar c then
      (shortString? quote .outside cs).map fun (text, rest) => (c :: text, rest)
    else none

/-- Reads a string over several lines up to its closing quotes.  `quotes` counts the quotes just
read. -/
def longString? (quote : Char) (r : Reading) (quotes : Nat) :
    List Char → Option (List Char × List Char)
  | [] => if 3 ≤ quotes then some (List.replicate (quotes - 3) quote, []) else none
  | c :: cs =>
    if isInEscape r c then
      match escapeStep? true r c with
      | some (d, next) =>
        (longString? quote next 0 cs).map fun (text, rest) => (d.toList ++ text, rest)
      | none => none
    else if c == quote && quotes < 5 then longString? quote .outside (quotes + 1) cs
    else if 3 ≤ quotes then some (List.replicate (quotes - 3) quote, c :: cs)
    else
      let before := List.replicate quotes quote
      if c == '\\' && quote == '"' then
        (longString? quote .opened 0 cs).map fun (text, rest) => (before ++ text, rest)
      else if isTextChar c || c == '\n' then
        (longString? quote .outside 0 cs).map fun (text, rest) => (before ++ c :: text, rest)
      else none

/-- Reads a string from its opening quotes on. -/
def string? (cs : List Char) : Option (List Char × List Char) :=
  match cs with
  | a :: b :: c :: rest =>
    if a == b && b == c then
      longString? a .outside 0 (if rest.head? == some '\n' then rest.drop 1 else rest)
    else shortString? a .outside (b :: c :: rest)
  | a :: rest => shortString? a .outside rest
  | [] => none

end TypedClient.Toml
