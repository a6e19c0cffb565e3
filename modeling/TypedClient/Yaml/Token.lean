import TypedClient.Yaml.Plain
import TypedClient.Yaml.Property
import TypedClient.Yaml.Quoted

/-!
# Tokens of YAML text

Indentation becomes tokens of its own: a block collection opens where its first entry is indented
further than the collection around it, and closes in front of the first token that is indented
less.  That a node was the key of a mapping shows only at the colon behind it, so the places where
a key may have begun are remembered, one per level of flow collections.

Anchors are numbered by the names seen so far; a name that is used again stands for its last
number.
-/

namespace TypedClient.Yaml

/-- A token of YAML text. -/
inductive Token where
  | directive (value : Directive)
  | documentStart
  | documentEnd
  | blockSequence
  | blockMapping
  | blockEnd
  | flowSequence
  | flowSequenceEnd
  | flowMapping
  | flowMappingEnd
  | blockEntry
  | flowEntry
  | key
  | value
  | reference (anchor : Nat)
  | anchor (number : Nat)
  | tag (written : WrittenTag)
  | scalar (isPlain : Bool) (text : String)

/-- A place where a key may have begun. -/
structure KeyPlace where
  /-- The number of tokens in front. -/
  tokens : Nat
  line : Nat
  column : Nat
  index : Nat
  /-- Whether nothing but a key can stand there. -/
  required : Bool

/-- The state of the scanner. -/
structure Scan where
  rest : List Spot
  /-- The open flow collections. -/
  flow : Nat
  /-- The columns of the open block collections, innermost first. -/
  indents : List Nat
  /-- Whether a key may begin here. -/
  keyAllowed : Bool
  /-- The place of a possible key of the innermost level. -/
  key : Option KeyPlace
  /-- The places of the levels around it. -/
  outerKeys : List (Option KeyPlace)
  /-- The names of anchors with their numbers. -/
  anchors : List (String × Nat)
  /-- The tokens so far, in reverse. -/
  tokens : List Token

namespace Scan

/-- The state at the start of a text. -/
def initial (spots : List Spot) : Scan := ⟨spots, 0, [], true, none, [], [], []⟩

/-- Whether the scanner is inside a flow collection. -/
def inFlow (s : Scan) : Bool := s.flow != 0

/-- One more than the column of the innermost block collection. -/
def parent (s : Scan) : Nat := (s.indents.head?.map (· + 1)).getD 0

/-- Adds a token. -/
def push (s : Scan) (t : Token) : Scan := { s with tokens := t :: s.tokens }

/-- Inserts a token behind the first `n`. -/
def insertAt (s : Scan) (n : Nat) (t : Token) : Scan :=
  let later := s.tokens.length - n
  { s with tokens := s.tokens.take later ++ t :: s.tokens.drop later }

theorem push_tokens (s : Scan) (t : Token) : (s.push t).tokens = t :: s.tokens := rfl

/-- Inserting behind all tokens is adding. -/
theorem insertAt_length (s : Scan) (t : Token) : s.insertAt s.tokens.length t = s.push t := by
  simp [insertAt, push]

/-! ## Indentation -/

/-- Closes the block collections that are indented by `column` or more. -/
def closeFrom (s : Scan) (column : Nat) : Scan :=
  let closed := s.indents.takeWhile fun n => column ≤ n
  { s with
    indents := s.indents.drop closed.length
    tokens := List.replicate closed.length Token.blockEnd ++ s.tokens }

/-- Closes the block collections that are indented further than `column`. -/
def unindent (s : Scan) (column : Nat) : Scan :=
  if s.inFlow then s else s.closeFrom (column + 1)

/-- Opens a block collection at the column behind the first `n` tokens, unless one is open there. -/
def indent (s : Scan) (column n : Nat) (t : Token) : Scan :=
  if s.inFlow || column < s.parent then s
  else { s.insertAt n t with indents := column :: s.indents }

/-! ## Places of keys -/

/-- Forgets the place of a possible key of the innermost level, unless a key is required there. -/
def dropKey? (s : Scan) : Option Scan :=
  match s.key with
  | some k => if k.required then none else some { s with key := none }
  | none => some s

/-- Remembers that a key may begin here. -/
def saveKey? (s : Scan) (here : Spot) : Option Scan :=
  if s.keyAllowed then
    s.dropKey?.map fun s =>
      { s with
        key := some ⟨s.tokens.length, here.line, here.column, here.index,
          !s.inFlow && s.indents.head? == some here.column⟩ }
  else some s

/-- Whether a key that began there can no longer end here: it is on one line and not longer than
1024 characters. -/
def isStale (k : KeyPlace) (here : Spot) : Bool := k.line < here.line || k.index + 1024 < here.index

/-- The place, if a key that began there can still end here; none at all if one was required. -/
def freshKey? (here : Spot) : Option KeyPlace → Option (Option KeyPlace)
  | some k =>
    if isStale k here then if k.required then none else some none else some (some k)
  | none => some none

/-- Forgets the places of keys that can no longer end here. -/
def refresh? (s : Scan) (here : Spot) : Option Scan :=
  (freshKey? here s.key).bind fun key =>
    (s.outerKeys.mapM (freshKey? here)).map fun outer =>
      { s with key := key, outerKeys := outer }

/-! ## Tokens -/

/-- Skips blanks, comments and line ends.  A line end allows a key in block context, and tabs are
skipped only where no key can begin. -/
def skipBlanks (flow keyAllowed comment : Bool) : List Spot → Bool × List Spot
  | [] => (keyAllowed, [])
  | s :: rest =>
    if isBreak s.char then skipBlanks flow (keyAllowed || !flow) false rest
    else if comment then skipBlanks flow keyAllowed true rest
    else if s.char == '#' then skipBlanks flow keyAllowed true rest
    else if s.char == ' ' || (s.char == '\t' && (flow || !keyAllowed)) ||
        (s.char == '\ufeff' && s.column == 0) then
      skipBlanks flow keyAllowed false rest
    else (keyAllowed, s :: rest)

/-- Reads a token that may begin a key. -/
def keyStart? (s : Scan) (here : Spot) (read : Option (Token × List Spot)) : Option Scan :=
  (s.saveKey? here).bind fun s =>
    read.map fun (t, rest) => { s.push t with rest := rest, keyAllowed := false }

/-- Closes all block collections and forgets the possible key: documents and directives begin
outside of everything. -/
def atMargin? (s : Scan) : Option Scan :=
  (if s.inFlow then s else s.closeFrom 0).dropKey?.map fun s => { s with keyAllowed := false }

/-- The token of a mark between documents. -/
def documentMark? (s : Scan) (t : Token) : Option Scan :=
  s.atMargin?.map fun s => { s.push t with rest := s.rest.drop 3 }

/-- The token of a directive. -/
def directiveToken? (s : Scan) : Option Scan :=
  s.atMargin?.bind fun s =>
    (directive? (s.rest.drop 1)).map fun (d, rest) =>
      { s.push (.directive d) with rest := rest }

/-- The token that opens a flow collection. -/
def openFlow? (s : Scan) (here : Spot) (t : Token) : Option Scan :=
  (s.saveKey? here).map fun s =>
    { s.push t with
      rest := s.rest.drop 1, flow := s.flow + 1, keyAllowed := true
      key := none, outerKeys := s.key :: s.outerKeys }

/-- The token that closes a flow collection. -/
def closeFlow? (s : Scan) (t : Token) : Option Scan :=
  s.dropKey?.map fun s =>
    let left := { s.push t with rest := s.rest.drop 1, keyAllowed := false }
    if s.inFlow then
      { left with
        flow := s.flow - 1
        key := s.outerKeys.head?.getD none
        outerKeys := s.outerKeys.drop 1 }
    else left

/-- The token between the entries of a flow collection. -/
def flowEntry? (s : Scan) : Option Scan :=
  s.dropKey?.map fun s => { s.push .flowEntry with rest := s.rest.drop 1, keyAllowed := true }

/-- The token that begins an entry of a block sequence. -/
def blockEntry? (s : Scan) (here : Spot) : Option Scan :=
  if !s.inFlow && !s.keyAllowed then none
  else
    (s.indent here.column s.tokens.length .blockSequence).dropKey?.map fun s =>
      { s.push .blockEntry with rest := s.rest.drop 1, keyAllowed := true }

/-- The token in front of a key that is marked as one. -/
def explicitKey? (s : Scan) (here : Spot) : Option Scan :=
  if !s.inFlow && !s.keyAllowed then none
  else
    (s.indent here.column s.tokens.length .blockMapping).dropKey?.map fun s =>
      { s.push .key with rest := s.rest.drop 1, keyAllowed := !s.inFlow }

/-- The token in front of a value.  If a key may have begun before it, one has. -/
def value? (s : Scan) (here : Spot) : Option Scan :=
  match s.key with
  | some k =>
    let s := (s.insertAt k.tokens .key).indent k.column k.tokens .blockMapping
    some { s.push .value with rest := s.rest.drop 1, key := none, keyAllowed := false }
  | none =>
    if !s.inFlow && !s.keyAllowed then none
    else
      let s := s.indent here.column s.tokens.length .blockMapping
      some { s.push .value with rest := s.rest.drop 1, keyAllowed := !s.inFlow }

/-- The token of a block scalar. -/
def blockScalar? (s : Scan) (folded : Bool) : Option Scan :=
  s.dropKey?.bind fun s =>
    (block? folded s.parent (s.rest.drop 1)).map fun (text, rest) =>
      { s.push (.scalar false (String.ofList text)) with rest := rest, keyAllowed := true }

/-- The token of a plain scalar. -/
def plainScalar? (s : Scan) (here : Spot) : Option Scan :=
  (s.saveKey? here).bind fun s =>
    (plain? s.inFlow s.parent .empty s.rest).map fun p =>
      { s.push (.scalar true (String.ofList p.text)) with rest := p.rest, keyAllowed := p.broken }

/-- The token of an anchor, which gets the number of names so far. -/
def anchorToken? (s : Scan) (here : Spot) : Option Scan :=
  (anchor? (s.rest.drop 1)).bind fun (name, rest) =>
    let name := String.ofList name
    let number := s.anchors.length
    let others := s.anchors.filter fun (known, _) => known != name
    ({ s with anchors := (name, number) :: others }).keyStart? here (some (.anchor number, rest))

/-- The token of an alias. -/
def aliasToken? (s : Scan) (here : Spot) : Option Scan :=
  (anchor? (s.rest.drop 1)).bind fun (name, rest) =>
    (s.anchors.lookup (String.ofList name)).bind fun number =>
      s.keyStart? here (some (.reference number, rest))

/-- Reads the next token, which begins with the spot `here`. -/
def token? (s : Scan) (here : Spot) (next : List Spot) : Option Scan :=
  let c := here.char
  if here.column == 0 && c == '%' then s.directiveToken?
  else if atMark '-' s.rest then s.documentMark? .documentStart
  else if atMark '.' s.rest then s.documentMark? .documentEnd
  else if c == '[' then s.openFlow? here .flowSequence
  else if c == '\x7b' then s.openFlow? here .flowMapping
  else if c == ']' then s.closeFlow? .flowSequenceEnd
  else if c == '\x7d' then s.closeFlow? .flowMappingEnd
  else if c == ',' then s.flowEntry?
  else if c == '-' && atBlank next then s.blockEntry? here
  else if c == '?' && (s.inFlow || atBlank next) then s.explicitKey? here
  else if c == ':' && (s.inFlow || atBlank next) then s.value? here
  else if c == '*' then s.aliasToken? here
  else if c == '&' then s.anchorToken? here
  else if c == '!' then
    s.keyStart? here ((tag? s.inFlow next).map fun (t, rest) => (.tag t, rest))
  else if c == '|' && !s.inFlow then s.blockScalar? false
  else if c == '>' && !s.inFlow then s.blockScalar? true
  else if c == '\'' || c == '"' then
    s.keyStart? here
      ((quoted? (c == '"') next).map fun (text, rest) => (.scalar false (String.ofList text), rest))
  else if startsPlain s.inFlow s.rest then s.plainScalar? here
  else none

/-- Reads all tokens. -/
def run? : (fuel : Nat) → Scan → Option (List Token)
  | 0, _ => none
  | fuel + 1, s =>
    let (keyAllowed, rest) := skipBlanks s.inFlow s.keyAllowed false s.rest
    let s := { s with keyAllowed := keyAllowed, rest := rest }
    match rest with
    | [] => s.atMargin?.map fun s => s.tokens.reverse
    | here :: next =>
      (s.refresh? here).bind fun s => ((s.unindent here.column).token? here next).bind (run? fuel)

end Scan

/-- The tokens of a text; `none` if it has none. -/
def tokens? (spots : List Spot) : Option (List Token) :=
  Scan.run? (spots.length + 1) (.initial spots)

end TypedClient.Yaml
