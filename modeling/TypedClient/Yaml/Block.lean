import TypedClient.Yaml.Spot

/-!
# Block scalars

A block scalar is a run of indented lines.  Its header tells whether lines are kept or folded, how
far they are indented, if not by as much as the first of them, and what becomes of the line ends
behind the last one.
-/

namespace TypedClient.Yaml

/-- What becomes of the line ends behind the last line. -/
inductive Chomping where
  /-- All of them go. -/
  | strip
  /-- The first stays. -/
  | clip
  /-- All of them stay. -/
  | keep
  deriving DecidableEq

/-- The header of a block scalar. -/
structure BlockHeader where
  chomping : Chomping
  /-- The indentation relative to that of the parent, if given. -/
  increment : Option Nat

/-- The chomping that a character asks for. -/
def chompingOf? (c : Char) : Option Chomping :=
  if c == '+' then some .keep else if c == '-' then some .strip else none

/-- Drops the blanks in front. -/
def dropGap (spots : List Spot) : List Spot := spots.dropWhile fun s => isGap s.char

/-- Drops the rest of a line that has nothing but blanks and a comment, and its line end. -/
def dropLine? (spots : List Spot) : Option (List Spot) :=
  let rest := dropGap spots
  let rest := if startsWith '#' rest then rest.dropWhile fun s => !isBreak s.char else rest
  if atLineEnd rest then some (rest.drop 1) else none

/-- Reads a digit of the header, which is not zero. -/
def increment? : List Spot → Option (Option Nat × List Spot)
  | [] => some (none, [])
  | s :: rest =>
    if !s.char.isDigit then some (none, s :: rest)
    else if s.char == '0' then none
    else some (some (s.char.toNat - 48), rest)

/-- Reads the chomping of the header. -/
def chomping : List Spot → Option Chomping × List Spot
  | [] => (none, [])
  | s :: rest =>
    match chompingOf? s.char with
    | some c => (some c, rest)
    | none => (none, s :: rest)

/-- Reads a header: the two indicators in either order. -/
def blockHeader? (spots : List Spot) : Option (BlockHeader × List Spot) :=
  match chomping spots with
  | (some c, rest) => (increment? rest).map fun (n, rest) => (⟨c, n⟩, rest)
  | (none, rest) =>
    (increment? rest).map fun (n, rest) =>
      match n with
      | none => (⟨.clip, none⟩, rest)
      | some n =>
        let (c, rest) := chomping rest
        (⟨c.getD .clip, some n⟩, rest)

/-- Empty lines in front of a line of text. -/
structure EmptyLines where
  breaks : List Char
  /-- The largest indentation that was met. -/
  widest : Nat
  rest : List Spot

/-- Reads empty lines.  The indentation is skipped up to `indent` columns, or whole if that is not
known yet, and must not have tabs. -/
def emptyLines? (indent : Option Nat) (widest : Nat) : List Spot → Option EmptyLines
  | [] => some ⟨[], widest, []⟩
  | s :: rest =>
    let inIndent := (indent.map fun n => decide (s.column < n)).getD true
    if inIndent && s.char == ' ' then emptyLines? indent widest rest
    else if inIndent && s.char == '\t' then none
    else if isBreak s.char then
      (emptyLines? indent (max widest s.column) rest).map fun e =>
        { e with breaks := s.char :: e.breaks }
    else some ⟨[], max widest s.column, s :: rest⟩

/-- What stands between two lines of text: folding makes a single line feed between lines that do
not begin with a blank a space. -/
def betweenLines (folded : Bool) (lineEnd : List Char) (leadingBlank trailingBlank : Bool)
    (breaks : List Char) : List Char :=
  if folded && lineEnd == ['\n'] && !leadingBlank && !trailingBlank then
    if breaks.isEmpty then [' '] else breaks
  else lineEnd ++ breaks

/-- Reads the lines of text.  `lineEnd` is the end of the line in front, `blank` whether that line
began with a blank and `breaks` the empty lines since. -/
def blockLines? (folded : Bool) (indent : Nat) (chomp : Chomping) (lineEnd : List Char)
    (blank : Bool) (breaks : List Char) :
    (fuel : Nat) → List Spot → Option (List Char × List Spot)
  | fuel + 1, s :: rest =>
    if s.column == indent then
      let line := (s :: rest).takeWhile fun t => !isBreak t.char
      let after := (s :: rest).dropWhile fun t => !isBreak t.char
      let nextEnd := (after.take 1).map Spot.char
      (emptyLines? (some indent) 0 (after.drop 1)).bind fun e =>
        (blockLines? folded indent chomp nextEnd (isGap s.char) e.breaks fuel e.rest).map
          fun (text, rest) =>
            (betweenLines folded lineEnd blank (isGap s.char) breaks ++
              (line.map Spot.char ++ text), rest)
    else some (lastBreaks lineEnd breaks, s :: rest)
  | _, rest => some (lastBreaks lineEnd breaks, rest)
where
  /-- What is left of the line ends behind the last line. -/
  lastBreaks (lineEnd breaks : List Char) : List Char :=
    match chomp with
    | .strip => []
    | .clip => lineEnd
    | .keep => lineEnd ++ breaks

/-- Reads a block scalar behind its indicator: its text and what follows.  `parent` is one more
than the indentation of the collection around it, and zero outside of all. -/
def block? (folded : Bool) (parent : Nat) (spots : List Spot) : Option (List Char × List Spot) :=
  (blockHeader? spots).bind fun (header, rest) =>
    (dropLine? rest).bind fun rest =>
      let given := header.increment.map fun n => (parent - 1) + n
      (emptyLines? given 0 rest).bind fun e =>
        let indent := given.getD (max e.widest (max parent 1))
        blockLines? folded indent header.chomping [] false e.breaks e.rest.length e.rest

end TypedClient.Yaml
