import TypedClient.Yaml.Token

/-!
# Nodes of a YAML document

The tokens of a text make a tree of nodes.  A value that is left out is an empty plain scalar.  A
text holds one document at most; an empty text holds none.
-/

namespace TypedClient.Yaml

/-- What a node may have in front of its content. -/
structure Properties where
  anchor : Option Nat
  tag : Option String

/-- A node of a document. -/
inductive Node where
  | reference (anchor : Nat)
  | scalar (properties : Properties) (isPlain : Bool) (text : String)
  | sequence (properties : Properties) (items : List Node)
  | mapping (properties : Properties) (entries : List (Node × Node))

/-- No properties. -/
def Properties.none : Properties := ⟨Option.none, Option.none⟩

/-- The node of a value that is left out. -/
def Node.absent : Node := scalar .none true ""

/-! ## Tags -/

/-- The handles of a document with their replacements. -/
abbrev TagHandles := List (List Char × List Char)

/-- The handles that every document knows. -/
def standardHandles : TagHandles :=
  [(['!'], ['!']), (['!', '!'], "tag:yaml.org,2002:".toList)]

/-- The name of a written tag; `none` if its handle is unknown. -/
def WrittenTag.name? (handles : TagHandles) : WrittenTag → Option String
  | full name => some (String.ofList name)
  | short handle suffix =>
    (handles.lookup handle).map fun replacement => String.ofList (replacement ++ suffix)

/-! ## Reading -/

/-- Reads the properties in front of a node, in either order. -/
def properties? (handles : TagHandles) : List Token → Option (Properties × List Token)
  | .anchor n :: .tag t :: rest => (t.name? handles).map fun tag => (⟨some n, some tag⟩, rest)
  | .tag t :: .anchor n :: rest => (t.name? handles).map fun tag => (⟨some n, some tag⟩, rest)
  | .anchor n :: rest => some (⟨some n, none⟩, rest)
  | .tag t :: rest => (t.name? handles).map fun tag => (⟨none, some tag⟩, rest)
  | rest => some (.none, rest)

/-- A scalar node.  The tag that is nothing but its mark does not count on a scalar. -/
def scalarNode (properties : Properties) (isPlain : Bool) (text : String) : Node :=
  if properties.tag == some "!" then .scalar { properties with tag := none } isPlain text
  else .scalar properties isPlain text

/-- Whether the next token ends an entry of a sequence in indented form. -/
def endsEntry : List Token → Bool
  | .blockEntry :: _ => true
  | .blockEnd :: _ => true
  | _ => false

/-- Whether the next token ends a key or value of a block mapping. -/
def endsBlockPart : List Token → Bool
  | .key :: _ => true
  | .value :: _ => true
  | .blockEnd :: _ => true
  | _ => false

/-- Whether the next token ends an entry of a sequence that is indented like its parent. -/
def endsFlushEntry (tokens : List Token) : Bool := endsEntry tokens || endsBlockPart tokens

/-- Whether the next token ends a key of a pair in a flow sequence. -/
def endsPairKey : List Token → Bool
  | .value :: _ => true
  | .flowEntry :: _ => true
  | .flowSequenceEnd :: _ => true
  | _ => false

/-- Whether the next token ends a value of a pair in a flow sequence. -/
def endsPairValue : List Token → Bool
  | .flowEntry :: _ => true
  | .flowSequenceEnd :: _ => true
  | _ => false

/-- Whether the next token ends a key of a flow mapping. -/
def endsFlowKey : List Token → Bool
  | .value :: _ => true
  | .flowEntry :: _ => true
  | .flowMappingEnd :: _ => true
  | _ => false

/-- Whether the next token ends a value of a flow mapping. -/
def endsFlowValue : List Token → Bool
  | .flowEntry :: _ => true
  | .flowMappingEnd :: _ => true
  | _ => false

mutual

/-- Reads a node.  Block collections begin only where `block` allows them, and a sequence that is
indented like its parent only where `flush` does. -/
def node? (handles : TagHandles) (block flush : Bool) :
    (fuel : Nat) → List Token → Option (Node × List Token)
  | 0, _ => none
  | _ + 1, .reference n :: rest => some (.reference n, rest)
  | fuel + 1, tokens =>
    (properties? handles tokens).bind fun (properties, tokens) =>
      match tokens with
      | .scalar isPlain text :: rest => some (scalarNode properties isPlain text, rest)
      | .flowSequence :: rest =>
        (flowItems? handles true fuel rest).map fun (xs, rest) => (.sequence properties xs, rest)
      | .flowMapping :: rest =>
        (flowEntries? handles true fuel rest).map fun (es, rest) => (.mapping properties es, rest)
      | tokens =>
        match block, flush, tokens with
        | _, true, .blockEntry :: rest =>
          (flushItems? handles fuel (.blockEntry :: rest)).map fun (xs, rest) =>
            (.sequence properties xs, rest)
        | true, _, .blockSequence :: rest =>
          (blockItems? handles fuel rest).map fun (xs, rest) => (.sequence properties xs, rest)
        | true, _, .blockMapping :: rest =>
          (blockEntries? handles fuel rest).map fun (es, rest) => (.mapping properties es, rest)
        | _, _, tokens =>
          if properties.anchor.isSome || properties.tag.isSome then
            some (.scalar properties true "", tokens)
          else none

/-- Reads the items of a block sequence and its end. -/
def blockItems? (handles : TagHandles) : (fuel : Nat) → List Token → Option (List Node × List Token)
  | fuel + 1, .blockEntry :: rest =>
    if endsEntry rest then
      (blockItems? handles fuel rest).map fun (xs, rest) => (.absent :: xs, rest)
    else
      (node? handles true false fuel rest).bind fun (x, rest) =>
        (blockItems? handles fuel rest).map fun (xs, rest) => (x :: xs, rest)
  | _, .blockEnd :: rest => some ([], rest)
  | _, _ => none

/-- Reads the items of a sequence that is indented like its parent. -/
def flushItems? (handles : TagHandles) : (fuel : Nat) → List Token → Option (List Node × List Token)
  | fuel + 1, .blockEntry :: rest =>
    if endsFlushEntry rest then
      (flushItems? handles fuel rest).map fun (xs, rest) => (.absent :: xs, rest)
    else
      (node? handles true false fuel rest).bind fun (x, rest) =>
        (flushItems? handles fuel rest).map fun (xs, rest) => (x :: xs, rest)
  | 0, .blockEntry :: _ => none
  | _, rest => some ([], rest)

/-- Reads a key or value of a block mapping. -/
def blockPart? (handles : TagHandles) : (fuel : Nat) → List Token → Option (Node × List Token)
  | fuel + 1, tokens =>
    if endsBlockPart tokens then some (.absent, tokens) else node? handles true true fuel tokens
  | 0, _ => none

/-- Reads the value of a block mapping with its mark; without the mark it is left out. -/
def blockValue? (handles : TagHandles) : (fuel : Nat) → List Token → Option (Node × List Token)
  | fuel + 1, .value :: rest => blockPart? handles fuel rest
  | _, tokens => some (.absent, tokens)

/-- Reads the entries of a block mapping and its end. -/
def blockEntries? (handles : TagHandles) :
    (fuel : Nat) → List Token → Option (List (Node × Node) × List Token)
  | fuel + 1, .key :: rest =>
    (blockPart? handles fuel rest).bind fun (k, rest) =>
      (blockValue? handles fuel rest).bind fun (v, rest) =>
        (blockEntries? handles fuel rest).map fun (es, rest) => ((k, v) :: es, rest)
  | _, .blockEnd :: rest => some ([], rest)
  | _, _ => none

/-- Reads the items of a flow sequence and its end.  Items after the first follow a comma, and the
last may have one behind it. -/
def flowItems? (handles : TagHandles) (first : Bool) :
    (fuel : Nat) → List Token → Option (List Node × List Token)
  | fuel + 1, tokens =>
    match first, tokens with
    | _, .flowSequenceEnd :: rest => some ([], rest)
    | true, tokens => flowItem? handles fuel tokens
    | false, .flowEntry :: .flowSequenceEnd :: rest => some ([], rest)
    | false, .flowEntry :: rest => flowItem? handles fuel rest
    | false, _ => none
  | 0, _ => none

/-- Reads an item of a flow sequence and those behind it.  A key makes the item a mapping with one
entry. -/
def flowItem? (handles : TagHandles) : (fuel : Nat) → List Token → Option (List Node × List Token)
  | fuel + 1, .key :: rest =>
    (pairKey? handles fuel rest).bind fun (k, rest) =>
      (pairValue? handles fuel rest).bind fun (v, rest) =>
        (flowItems? handles false fuel rest).map fun (xs, rest) =>
          (.mapping .none [(k, v)] :: xs, rest)
  | fuel + 1, tokens =>
    (node? handles false false fuel tokens).bind fun (x, rest) =>
      (flowItems? handles false fuel rest).map fun (xs, rest) => (x :: xs, rest)
  | 0, _ => none

/-- Reads the key of a pair in a flow sequence.  The token behind a key that is left out belongs to
it. -/
def pairKey? (handles : TagHandles) : (fuel : Nat) → List Token → Option (Node × List Token)
  | fuel + 1, tokens =>
    if endsPairKey tokens then some (.absent, tokens.drop 1)
    else node? handles false false fuel tokens
  | 0, _ => none

/-- Reads the value of a pair in a flow sequence. -/
def pairValue? (handles : TagHandles) : (fuel : Nat) → List Token → Option (Node × List Token)
  | fuel + 1, .value :: rest =>
    if endsPairValue rest then some (.absent, rest) else node? handles false false fuel rest
  | _, tokens => some (.absent, tokens)

/-- Reads the entries of a flow mapping and its end.  Entries after the first follow a comma, and
the last may have one behind it. -/
def flowEntries? (handles : TagHandles) (first : Bool) :
    (fuel : Nat) → List Token → Option (List (Node × Node) × List Token)
  | fuel + 1, tokens =>
    match first, tokens with
    | _, .flowMappingEnd :: rest => some ([], rest)
    | true, tokens => flowPair? handles fuel tokens
    | false, .flowEntry :: .flowMappingEnd :: rest => some ([], rest)
    | false, .flowEntry :: rest => flowPair? handles fuel rest
    | false, _ => none
  | 0, _ => none

/-- Reads an entry of a flow mapping and those behind it.  A node without a mark in front is a key
without a value. -/
def flowPair? (handles : TagHandles) :
    (fuel : Nat) → List Token → Option (List (Node × Node) × List Token)
  | fuel + 1, .key :: rest =>
    (if endsFlowKey rest then some (.absent, rest) else node? handles false false fuel rest).bind
      fun (k, rest) =>
        (flowValue? handles fuel rest).bind fun (v, rest) =>
          (flowEntries? handles false fuel rest).map fun (es, rest) => ((k, v) :: es, rest)
  | fuel + 1, tokens =>
    (node? handles false false fuel tokens).bind fun (k, rest) =>
      (flowEntries? handles false fuel rest).map fun (es, rest) => ((k, .absent) :: es, rest)
  | 0, _ => none

/-- Reads the value of a flow mapping with its mark; without the mark it is left out. -/
def flowValue? (handles : TagHandles) : (fuel : Nat) → List Token → Option (Node × List Token)
  | fuel + 1, .value :: rest =>
    if endsFlowValue rest then some (.absent, rest) else node? handles false false fuel rest
  | _, tokens => some (.absent, tokens)

end

/-! ## Documents -/

/-- The directives in front of a document and what follows. -/
def directives : List Token → List Directive × List Token
  | .directive d :: rest =>
    let (ds, rest) := directives rest
    (d :: ds, rest)
  | rest => ([], rest)

/-- Whether at most one directive gives the version, and it is one that is known. -/
def versionsOk (ds : List Directive) : Bool :=
  let versions := ds.filterMap fun d =>
    match d with
    | .version major minor => some (major, minor)
    | .tag _ _ => none
  versions.length ≤ 1 && versions.all fun v => v == (1, 1) || v == (1, 2)

/-- The handles that directives explain; `none` if one of them is explained twice. -/
def handlesOf? : List Directive → Option TagHandles
  | [] => some []
  | .version _ _ :: ds => handlesOf? ds
  | .tag handle replacement :: ds =>
    (handlesOf? ds).bind fun others =>
      if (others.lookup handle).isSome then none else some ((handle, replacement) :: others)

/-- Whether nothing follows a document but marks of its end. -/
def endsText : List Token → Bool
  | [] => true
  | .documentEnd :: rest => endsText rest
  | _ => false

/-- Whether the next token begins or ends a document. -/
def endsDocument : List Token → Bool
  | [] => true
  | .documentStart :: _ => true
  | .documentEnd :: _ => true
  | .directive _ :: _ => true
  | _ => false

/-- Reads the content of the only document. -/
def content? (handles : TagHandles) (tokens : List Token) : Option Node :=
  (node? handles true false (3 * tokens.length + 3) tokens).bind fun (n, rest) =>
    if endsText rest then some n else none

/-- The document of a text: `none` if there are errors, and none inside if the text is empty. -/
def document? (tokens : List Token) : Option (Option Node) :=
  match directives tokens with
  | ([], []) => some none
  | ([], .documentStart :: rest) => (explicit [] rest).map some
  | ([], tokens) => (content? standardHandles tokens).map some
  | (ds, .documentStart :: rest) => (explicit ds rest).map some
  | _ => none
where
  /-- Reads the content behind the mark of a document's start. -/
  explicit (ds : List Directive) (tokens : List Token) : Option Node :=
    if !versionsOk ds then none
    else
      (handlesOf? ds).bind fun handles =>
        if endsDocument tokens then if endsText tokens then some .absent else none
        else content? (handles ++ standardHandles) tokens

end TypedClient.Yaml
