import TypedClient.Text.Hex
import TypedClient.Yaml.Block

/-!
# Anchors, tags and directives

A node may have an anchor, by which later places refer to it, and a tag, which names its type.  A
tag is written in full or with a handle that a directive in front of the document explains.
-/

namespace TypedClient.Yaml

/-- A tag as written. -/
inductive WrittenTag where
  /-- In full. -/
  | full (name : List Char)
  /-- With a handle. -/
  | short (handle suffix : List Char)

/-- A directive in front of a document. -/
inductive Directive where
  | version (major minor : Nat)
  | tag (handle replacement : List Char)

/-! ## Anchors -/

/-- Reads characters of a name. -/
def takeName (spots : List Spot) : List Char × List Spot :=
  ((spots.takeWhile fun s => isNameChar s.char).map Spot.char,
    spots.dropWhile fun s => isNameChar s.char)

/-- Whether a name may end here. -/
def endsName : List Spot → Bool
  | [] => true
  | s :: rest =>
    atBlank (s :: rest) || ['?', ':', ',', ']', '\x7d', '%', '@', '\x60'].contains s.char

/-- Reads the name of an anchor or alias. -/
def anchor? (spots : List Spot) : Option (List Char × List Spot) :=
  let (name, rest) := takeName spots
  if name.isEmpty || !endsName rest then none else some (name, rest)

/-! ## Tags -/

/-- Whether the character may stand in a tag.  Marks of collections may only in full ones. -/
def isTagChar (full : Bool) (c : Char) : Bool :=
  isNameChar c ||
  [';', '/', '?', ':', '@', '&', '=', '+', '$', '.', '%', '!', '~', '*', '\'', '(', ')'].contains
    c ||
  (full && (c == ',' || c == '[' || c == ']'))

/-- The number of bytes that follow a leading byte; `none` if it is no leading byte. -/
def followingBytes? (byte : Nat) : Option Nat :=
  if byte < 0x80 then some 0
  else if byte < 0xC0 then none
  else if byte < 0xE0 then some 1
  else if byte < 0xF0 then some 2
  else if byte < 0xF8 then some 3
  else none

/-- The characters of a tag and what follows.  An escaped byte stands for itself; `waiting` bytes
of its character are still to come, and they are escaped too. -/
def tagChars? (full : Bool) (waiting : Nat) : List Spot → Option (List Char × List Spot)
  | [] => if waiting == 0 then some ([], []) else none
  | s :: t :: u :: rest =>
    if s.char == '%' then
      match Text.hexValue? t.char, Text.hexValue? u.char with
      | some a, some b =>
        let byte := a * 16 + b
        let next := if waiting == 0 then followingBytes? byte
          else if 0x80 ≤ byte && byte < 0xC0 then some (waiting - 1) else none
        match next with
        | some n =>
          (tagChars? full n rest).map fun (cs, rest) => (Char.ofNat byte :: cs, rest)
        | none => none
      | _, _ => none
    else if waiting != 0 then none
    else if isTagChar full s.char then
      (tagChars? full 0 (t :: u :: rest)).map fun (cs, rest) => (s.char :: cs, rest)
    else some ([], s :: t :: u :: rest)
  | s :: rest =>
    if waiting != 0 || s.char == '%' then none
    else if isTagChar full s.char then
      (tagChars? full 0 rest).map fun (cs, rest) => (s.char :: cs, rest)
    else some ([], s :: rest)

/-- The characters of a tag, of which there is at least one. -/
def nonemptyTag? (full : Bool) (spots : List Spot) : Option (List Char × List Spot) :=
  (tagChars? full 0 spots).bind fun (cs, rest) => if cs.isEmpty then none else some (cs, rest)

/-- Reads a handle behind its exclamation mark: the name and the closing mark, if there is one. -/
def handle (spots : List Spot) : List Char × List Spot :=
  let (name, rest) := takeName spots
  if startsWith '!' rest then ('!' :: name ++ ['!'], rest.drop 1) else ('!' :: name, rest)

/-- Whether a tag may end here. -/
def endsTag (flow : Bool) (spots : List Spot) : Bool :=
  atBlank spots || (flow && startsWith ',' spots)

/-- Reads a tag behind its exclamation mark. -/
def tag? (flow : Bool) (spots : List Spot) : Option (WrittenTag × List Spot) :=
  let read : Option (WrittenTag × List Spot) :=
    if startsWith '<' spots then
      (nonemptyTag? true (spots.drop 1)).bind fun (name, rest) =>
        if startsWith '>' rest then some (.full name, rest.drop 1) else none
    else
      let (start, rest) := handle spots
      if 1 < start.length && start.getLast? == some '!' then
        (nonemptyTag? false rest).map fun (suffix, rest) => (.short start suffix, rest)
      else
        (tagChars? false 0 rest).map fun (more, rest) =>
          let suffix := start.drop 1 ++ more
          (if suffix.isEmpty then .full ['!'] else .short ['!'] suffix, rest)
  read.bind fun (tag, rest) => if endsTag flow rest then some (tag, rest) else none

/-! ## Directives -/

/-- Reads a number of at most nine digits. -/
def versionNumber? (spots : List Spot) : Option (Nat × List Spot) :=
  let digits := (spots.takeWhile fun s => s.char.isDigit).map Spot.char
  if digits.isEmpty || 9 < digits.length then none
  else some (digits.foldl (fun n c => n * 10 + (c.toNat - 48)) 0,
    spots.dropWhile fun s => s.char.isDigit)

/-- Reads the version behind its directive's name. -/
def versionDirective? (spots : List Spot) : Option (Directive × List Spot) :=
  (versionNumber? (dropGap spots)).bind fun (major, rest) =>
    if startsWith '.' rest then
      (versionNumber? (rest.drop 1)).map fun (minor, rest) => (.version major minor, rest)
    else none

/-- Reads the handle and its replacement behind the directive's name. -/
def tagDirective? (spots : List Spot) : Option (Directive × List Spot) :=
  let spots := dropGap spots
  if startsWith '!' spots then
    let (name, rest) := handle (spots.drop 1)
    if (name == ['!'] || name.getLast? == some '!') &&
        (rest.head?.map fun s => isGap s.char) == some true
    then
      (nonemptyTag? true (dropGap rest)).bind fun (replacement, rest) =>
        if atBlank rest then some (.tag name replacement, rest) else none
    else none
  else none

/-- Reads a directive behind its percent sign, with its line. -/
def directive? (spots : List Spot) : Option (Directive × List Spot) :=
  let (name, rest) := takeName spots
  if !atBlank rest then none
  else
    let read :=
      if name == "YAML".toList then versionDirective? rest
      else if name == "TAG".toList then tagDirective? rest
      else none
    read.bind fun (d, rest) => (dropLine? rest).map fun rest => (d, rest)

end TypedClient.Yaml
