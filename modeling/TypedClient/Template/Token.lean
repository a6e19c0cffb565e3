import TypedClient.Text.Blank

/-!
# Pieces of a template text

A template text falls into pieces: text, slots, tags and comments.  A hyphen at the edge of a piece
that is no text takes the white space next to it away.  What stands inside a slot or a tag falls
into words.
-/

namespace TypedClient.Template

open Text (isBlank trim trimStart trimEnd)

/-! ## Pieces -/

/-- A kind of pieces that are no text. -/
inductive Bracket where
  | slot
  | tag
  | comment
  deriving DecidableEq

/-- The character next to the brace. -/
def Bracket.opening : Bracket → Char
  | slot => '\x7b'
  | tag => '%'
  | comment => '#'

/-- The character in front of the closing brace. -/
def Bracket.closing : Bracket → Char
  | slot => '\x7d'
  | tag => '%'
  | comment => '#'

/-- The bracket that a character opens behind a brace. -/
def Bracket.ofOpening? (c : Char) : Option Bracket :=
  [slot, tag, comment].find? fun b => b.opening == c

/-- A piece of a template text. -/
inductive Piece where
  | text (chars : List Char)
  | inside (bracket : Bracket) (chars : List Char)

/-- Characters that quote a text inside a slot or a tag. -/
def isQuote (c : Char) : Bool := c == '"' || c == '\'' || c == '\x60'

/-- What was read of the current piece, backwards. -/
inductive Reading where
  | text (done : List Char)
  /-- Inside a bracket, and maybe inside a quoted text. -/
  | inside (bracket : Bracket) (done : List Char) (quote : Option Char)

/-- The quote that is open behind a character. -/
def quoteAfter (bracket : Bracket) (quote : Option Char) (c : Char) : Option Char :=
  match bracket, quote with
  | .comment, _ => none
  | _, some q => if c == q then none else some q
  | _, none => if isQuote c then some c else none

/-- Cuts a text into pieces.  There are none if a bracket stays open. -/
def pieces (r : Reading) : List Char → Option (List Piece)
  | [] =>
    match r with
    | .text done => some [.text done.reverse]
    | .inside _ _ _ => none
  | [c] =>
    match r with
    | .text done => some [.text (c :: done).reverse]
    | .inside _ _ _ => none
  | c :: d :: cs =>
    match r with
    | .text done =>
      match if c == '\x7b' then Bracket.ofOpening? d else none with
      | some b => (pieces (.inside b [] none) cs).map (.text done.reverse :: ·)
      | none => pieces (.text (c :: done)) (d :: cs)
    | .inside b done quote =>
      if quote.isNone && c == b.closing && d == '\x7d' then
        (pieces (.text []) cs).map (.inside b done.reverse :: ·)
      else pieces (.inside b (c :: done) (quoteAfter b quote c)) (d :: cs)

/-- The pieces of a text. -/
def piecesOf (cs : List Char) : Option (List Piece) := pieces (.text []) cs

/-- Whether a piece takes the white space in front of it away. -/
def Piece.trimsBefore : Piece → Bool
  | text _ => false
  | inside _ cs => cs.head? == some '-'

/-- Whether a piece takes the white space behind it away. -/
def Piece.trimsAfter : Piece → Bool
  | text _ => false
  | inside _ cs => cs.getLast? == some '-'

/-- The piece without the hyphens at its edges. -/
def Piece.bare : Piece → Piece
  | text cs => .text cs
  | inside b cs =>
    let cs := if cs.head? == some '-' then cs.drop 1 else cs
    .inside b (if cs.getLast? == some '-' then cs.dropLast else cs)

/-- Takes the white space away that the pieces ask for.  `trims` says whether the piece in front
does. -/
def trimPieces (trims : Bool) : List Piece → List Piece
  | [] => []
  | .text cs :: rest =>
    let cs := if trims then trimStart cs else cs
    let trimsNext := (rest.head?.map Piece.trimsBefore).getD false
    .text (if trimsNext then trimEnd cs else cs) :: trimPieces false rest
  | p :: rest => p.bare :: trimPieces p.trimsAfter rest

/-! ## Words -/

/-- A word of a slot or a tag. -/
inductive Word where
  /-- Letters, digits, underscores and points. -/
  | plain (chars : List Char)
  | quoted (chars : List Char)
  | mark (c : Char)
  deriving DecidableEq

/-- Characters of plain words. -/
def isPlainChar (c : Char) : Bool := c.isAlphanum || c == '_' || c == '.'

/-- Characters that are words by themselves. -/
def isMark (c : Char) : Bool := ['|', '(', ')', ',', '=', ':'].contains c

/-- Characters between words. -/
def isGap (c : Char) : Bool := c == ' ' || c == '\t' || c == '\r' || c == '\n'

/-- What was read of the current word, backwards. -/
inductive WordReading where
  | gap
  | plain (done : List Char)
  | quoted (done : List Char) (quote : Char)

/-- The word that has been read. -/
def WordReading.close : WordReading → List Word
  | plain done => [.plain done.reverse]
  | _ => []

/-- Cuts the inside of a slot or a tag into words.  There are none for a character that belongs to
no word or a quote that stays open. -/
def words (r : WordReading) : List Char → Option (List Word)
  | [] =>
    match r with
    | .quoted _ _ => none
    | r => some r.close
  | c :: cs =>
    match r with
    | .quoted done q =>
      if c == q then (words .gap cs).map (.quoted done.reverse :: ·)
      else words (.quoted (c :: done) q) cs
    | r =>
      if isPlainChar c then
        match r with
        | .plain done => words (.plain (c :: done)) cs
        | _ => words (.plain [c]) cs
      else if isGap c then (words .gap cs).map (r.close ++ ·)
      else if isQuote c then (words (.quoted [] c) cs).map (r.close ++ ·)
      else if isMark c then (words .gap cs).map (r.close ++ .mark c :: ·)
      else none

/-- The words inside a slot or a tag. -/
def wordsOf (cs : List Char) : Option (List Word) := words .gap cs

end TypedClient.Template
