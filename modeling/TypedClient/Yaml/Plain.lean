import TypedClient.Yaml.Fold

/-!
# Plain scalars

A plain scalar has no quotes.  It ends in front of a colon with a blank behind it, of a comment and
of a mark between documents; within a flow collection in front of the marks of collections; and
outside of one where a line is indented too little.
-/

namespace TypedClient.Yaml

/-- Whether a plain scalar may begin here. -/
def startsPlain (flow : Bool) : List Spot → Bool
  | [] => false
  | s :: rest =>
    let c := s.char
    let indicator :=
      isGap c || isBreak c || isFlowMark c ||
      ['-', '?', ':', '#', '&', '*', '!', '|', '>', '\'', '"', '%', '@', '\x60'].contains c
    let spaceFollows :=
      match rest with
      | [] => false
      | t :: _ => isGap t.char
    !indicator || (c == '-' && !spaceFollows) ||
      (!flow && (c == '?' || c == ':') && !atBlank rest)

/-- A plain scalar as read. -/
structure PlainScalar where
  text : List Char
  /-- Whether it ended at the start of a line. -/
  broken : Bool
  rest : List Spot

/-- Whether a plain scalar ends in front of a visible character that a gap precedes. -/
def endsBehindGap (flow : Bool) (indent : Nat) (s : Spot) (rest : List Spot) : Bool :=
  (!flow && s.column < indent) || s.char == '#' || atDocumentMark (s :: rest)

/-- Whether a visible character ends a plain scalar wherever it stands. -/
def endsPlain (flow : Bool) (s : Spot) (rest : List Spot) : Bool :=
  (s.char == ':' && atBlank rest) || (flow && isFlowMark s.char)

/-- Whether a colon stands in front of a mark of collections, which is an error there. -/
def isStrayColon (flow : Bool) (s : Spot) (rest : List Spot) : Bool :=
  flow && s.char == ':' &&
    match rest with
    | [] => false
    | t :: _ => isFlowMark t.char || t.char == '?'

/-- Reads a plain scalar.  Lines after the first are indented by `indent` columns at least, and
not by tabs. -/
def plain? (flow : Bool) (indent : Nat) (gap : Gap) : List Spot → Option PlainScalar
  | [] => some ⟨[], gap.isBroken, []⟩
  | s :: rest =>
    if isGap s.char then
      if gap.isBroken && s.column < indent && s.char == '\t' then none
      else plain? flow indent (gap.addBlank s.char) rest
    else if isBreak s.char then plain? flow indent (gap.addBreak s.char) rest
    else if !gap.isEmpty && endsBehindGap flow indent s rest then
      some ⟨[], gap.isBroken, s :: rest⟩
    else if isStrayColon flow s rest then none
    else if endsPlain flow s rest then some ⟨[], gap.isBroken, s :: rest⟩
    else
      (plain? flow indent .empty rest).map fun p =>
        { p with text := gap.text ++ s.char :: p.text }

theorem plain?_nil (flow : Bool) (indent : Nat) (gap : Gap) :
    plain? flow indent gap [] = some ⟨[], gap.isBroken, []⟩ := rfl

end TypedClient.Yaml
