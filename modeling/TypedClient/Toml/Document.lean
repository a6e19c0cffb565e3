import TypedClient.Toml.Quoted
import TypedClient.Toml.Table

/-!
# TOML documents

A document is a list of lines: pairs of a key and a value, headers that open tables, comments and
blank lines.  Numbers and dates are not read, so a text with one of them is refused.
-/

namespace TypedClient.Toml

/-! ## Blanks -/

/-- Drops blanks within a line. -/
def dropGap (cs : List Char) : List Char := cs.dropWhile isGap

/-- Drops the rest of a line that has nothing but blanks and a comment, and its line end. -/
def dropLine? (cs : List Char) : Option (List Char) :=
  let cs := dropGap cs
  let cs := if cs.head? == some '#' then cs.dropWhile isTextChar else cs
  match cs with
  | [] => some []
  | '\n' :: rest => some rest
  | _ => none

/-- Drops blanks, comments and line ends, as they may stand between the items of an array. -/
def dropBlanks? (inComment : Bool) : List Char → Option (List Char)
  | [] => some []
  | c :: cs =>
    if c == '\n' then dropBlanks? false cs
    else if inComment then if isTextChar c then dropBlanks? true cs else none
    else if isGap c then dropBlanks? false cs
    else if c == '#' then dropBlanks? true cs
    else some (c :: cs)

/-! ## Keys -/

/-- Characters of keys without quotes. -/
def isBareChar (c : Char) : Bool := c.isAlphanum || c == '_' || c == '-'

/-- Reads one part of a key. -/
def keyPart? (cs : List Char) : Option (String × List Char) :=
  match cs with
  | [] => none
  | c :: rest =>
    if c == '"' || c == '\'' then
      (shortString? c .outside rest).map fun (text, rest) => (String.ofList text, rest)
    else
      let bare := cs.takeWhile isBareChar
      if bare.isEmpty then none else some (String.ofList bare, cs.dropWhile isBareChar)

/-- Reads a key with its dotted parts and the blanks around it. -/
def key? : (fuel : Nat) → List Char → Option (List String × List Char)
  | 0, _ => none
  | fuel + 1, cs =>
    (keyPart? (dropGap cs)).bind fun (part, rest) =>
      match dropGap rest with
      | '.' :: rest => (key? fuel rest).map fun (parts, rest) => (part :: parts, rest)
      | rest => some ([part], rest)

/-! ## Values -/

/-- Reads one of the two truth values. -/
def bool? (cs : List Char) : Option (Value × List Char) :=
  if "true".toList.isPrefixOf cs then some (.bool true, cs.drop 4)
  else if "false".toList.isPrefixOf cs then some (.bool false, cs.drop 5)
  else none

mutual

/-- Reads a value. -/
def value? : (fuel : Nat) → List Char → Option (Value × List Char)
  | 0, _ => none
  | fuel + 1, cs =>
    match cs with
    | '"' :: _ => (string? cs).map fun (text, rest) => (.string (String.ofList text), rest)
    | '\'' :: _ => (string? cs).map fun (text, rest) => (.string (String.ofList text), rest)
    | '[' :: rest => (items? fuel rest).map fun (items, rest) => (.array items, rest)
    | '\x7b' :: rest =>
      match dropGap rest with
      | '\x7d' :: rest => some (.table .inLine [], rest)
      | rest => (pairs? fuel [] rest).map fun (entries, rest) => (.table .inLine entries, rest)
    | cs => bool? cs

/-- Reads the items of an array and its end. -/
def items? : (fuel : Nat) → List Char → Option (List Value × List Char)
  | 0, _ => none
  | fuel + 1, cs =>
    (dropBlanks? false cs).bind fun cs =>
      match cs with
      | ']' :: rest => some ([], rest)
      | cs =>
        (value? fuel cs).bind fun (item, rest) =>
          (dropBlanks? false rest).bind fun rest =>
            match rest with
            | ',' :: rest => (items? fuel rest).map fun (items, rest) => (item :: items, rest)
            | ']' :: rest => some ([item], rest)
            | _ => none

/-- Reads the pairs of a table in one line and its end. -/
def pairs? : (fuel : Nat) → Entries → List Char → Option (Entries × List Char)
  | 0, _, _ => none
  | fuel + 1, entries, cs =>
    (pair? fuel cs).bind fun (key, value, rest) =>
      (addPair key value .inLine entries).bind fun entries =>
        match dropGap rest with
        | ',' :: rest => pairs? fuel entries rest
        | '\x7d' :: rest => some (entries, rest)
        | _ => none

/-- Reads a pair of a key and a value. -/
def pair? : (fuel : Nat) → List Char → Option (List String × Value × List Char)
  | 0, _ => none
  | fuel + 1, cs =>
    (key? (cs.length + 1) cs).bind fun (key, rest) =>
      match rest with
      | '=' :: rest => (value? fuel (dropGap rest)).map fun (value, rest) => (key, value, rest)
      | _ => none

end

/-! ## Lines -/

/-- A line of a document. -/
inductive Line where
  | blank
  | header (isRepeated : Bool) (path : List String)
  | pair (key : List String) (value : Value)

/-- Reads the header of a table behind its opening bracket. -/
def header? (cs : List Char) : Option (Line × List Char) :=
  let (isRepeated, cs) :=
    match cs with
    | '[' :: rest => (true, rest)
    | cs => (false, cs)
  (key? (cs.length + 1) cs).bind fun (path, rest) =>
    match isRepeated, rest with
    | false, ']' :: rest => some (.header false path, rest)
    | true, ']' :: ']' :: rest => some (.header true path, rest)
    | _, _ => none

/-- Reads a line with its end. -/
def line? (cs : List Char) : Option (Line × List Char) :=
  let content : Option (Line × List Char) :=
    match dropGap cs with
    | [] => some (.blank, [])
    | '\n' :: rest => some (.blank, '\n' :: rest)
    | '#' :: rest => some (.blank, '#' :: rest)
    | '[' :: rest => header? rest
    | cs => (pair? (cs.length + 1) cs).map fun (key, value, rest) => (.pair key value, rest)
  content.bind fun (line, rest) => (dropLine? rest).map fun rest => (line, rest)

/-- Reads the lines of a document. -/
def lines? : (fuel : Nat) → List Char → Option (List Line)
  | _, [] => some []
  | 0, _ => none
  | fuel + 1, cs => (line? cs).bind fun (line, rest) => (lines? fuel rest).map (line :: ·)

/-- Adds lines to the entries of a document, below the header that stands in front of them. -/
def addLines (current : List String) (entries : Entries) : List Line → Option Entries
  | [] => some entries
  | .blank :: rest => addLines current entries rest
  | .header isRepeated path :: rest =>
    (addHeader isRepeated path entries).bind fun entries => addLines path entries rest
  | .pair key value :: rest =>
    (changeAt false (addPair key value) current .header entries).bind fun entries =>
      addLines current entries rest

/-- Makes a carriage return in front of a line feed part of the line end. -/
def unifyBreaks : List Char → List Char
  | [] => []
  | '\r' :: '\n' :: cs => '\n' :: unifyBreaks cs
  | c :: cs => c :: unifyBreaks cs

/-- The text without a byte order mark in front. -/
def dropByteOrderMark : List Char → List Char
  | '\ufeff' :: cs => cs
  | cs => cs

/-- The entries of a document; `none` if it is malformed. -/
def document? (text : String) : Option Entries :=
  let cs := unifyBreaks (dropByteOrderMark text.toList)
  (lines? (cs.length + 1) cs).bind (addLines [] [])

theorem document?_empty : document? "" = some [] := by
  simp [document?, lines?, addLines, unifyBreaks, dropByteOrderMark]

end TypedClient.Toml
