import TypedClient.Text.Hex
import TypedClient.Yaml.Fold

/-!
# Quoted scalars

A single-quoted scalar knows one escape, the doubled quote.  A double-quoted one has escapes for
control characters and code points, and a backslash at the end of a line joins it to the next
without a space.  Reading falls into two steps: the parts up to the closing quote, and the folding
of their lines.
-/

namespace TypedClient.Yaml

/-- A part of a quoted scalar. -/
inductive QuotedPart where
  /-- A character as it stands; it may be a blank or a line end. -/
  | plain (char : Char)
  /-- A character that an escape stands for. -/
  | literal (char : Char)
  /-- An escaped line end. -/
  | joint

/-- Folds the lines of a quoted scalar. -/
def foldParts (gap : Gap) : List QuotedPart → List Char
  | [] => gap.text
  | .plain c :: parts =>
    if isGap c then foldParts (gap.addBlank c) parts
    else if isBreak c then foldParts (gap.addBreak c) parts
    else gap.text ++ c :: foldParts .empty parts
  | .literal c :: parts => gap.text ++ c :: foldParts .empty parts
  | .joint :: parts => gap.text ++ foldParts (.joined []) parts

theorem foldParts_nil (gap : Gap) : foldParts gap [] = gap.text := rfl

theorem foldParts_literal (gap : Gap) (c : Char) (parts : List QuotedPart) :
    foldParts gap (.literal c :: parts) = gap.text ++ c :: foldParts .empty parts := rfl

/-- The parts of a single-quoted scalar up to its closing quote, and what follows. -/
def singleParts : List Spot → Option (List QuotedPart × List Spot)
  | [] => none
  | [s] => if s.char == '\'' then some ([], []) else none
  | s :: t :: rest =>
    if atDocumentMark (s :: t :: rest) then none
    else if s.char == '\'' then
      if t.char == '\'' then
        (singleParts rest).map fun (parts, rest) => (.literal '\'' :: parts, rest)
      else some ([], t :: rest)
    else (singleParts (t :: rest)).map fun (parts, rest) => (.plain s.char :: parts, rest)

/-- Where the reader of a double-quoted scalar stands. -/
inductive Escape where
  /-- Outside escapes. -/
  | outside
  /-- Behind a backslash. -/
  | opened
  /-- Inside the digits of a code point, with so many still to come. -/
  | digits (left value : Nat)

/-- The character of a one-letter escape. -/
def escapeChar? (c : Char) : Option Char :=
  match c with
  | '0' => some '\x00'
  | 'a' => some '\x07'
  | 'b' => some '\x08'
  | 't' => some '\t'
  | '\t' => some '\t'
  | 'n' => some '\n'
  | 'v' => some '\x0b'
  | 'f' => some '\x0c'
  | 'r' => some '\r'
  | 'e' => some '\x1b'
  | ' ' => some ' '
  | '"' => some '"'
  | '/' => some '/'
  | '\\' => some '\\'
  | 'N' => some '\x85'
  | '_' => some '\u00a0'
  | 'L' => some '\u2028'
  | 'P' => some '\u2029'
  | _ => none

/-- The number of digits behind the letter of a code-point escape. -/
def escapeDigits? (c : Char) : Option Nat :=
  match c with
  | 'x' => some 2
  | 'u' => some 4
  | 'U' => some 8
  | _ => none

/-- The character of a code point, if it is one. -/
def charOf? (n : Nat) : Option Char := if n.isValidChar then some (Char.ofNat n) else none

/-- The parts of a double-quoted scalar up to its closing quote, and what follows. -/
def doubleParts (escape : Escape) : List Spot → Option (List QuotedPart × List Spot)
  | [] => none
  | s :: rest =>
    match escape with
    | .outside =>
      if atDocumentMark (s :: rest) then none
      else if s.char == '"' then some ([], rest)
      else if s.char == '\\' then doubleParts .opened rest
      else (doubleParts .outside rest).map fun (parts, rest) => (.plain s.char :: parts, rest)
    | .opened =>
      if isBreak s.char then
        (doubleParts .outside rest).map fun (parts, rest) => (.joint :: parts, rest)
      else
        match escapeDigits? s.char with
        | some n => doubleParts (.digits n 0) rest
        | none =>
          match escapeChar? s.char with
          | some c =>
            (doubleParts .outside rest).map fun (parts, rest) => (.literal c :: parts, rest)
          | none => none
    | .digits left value =>
      match Text.hexValue? s.char with
      | none => none
      | some d =>
        if left ≤ 1 then
          match charOf? (value * 16 + d) with
          | some c =>
            (doubleParts .outside rest).map fun (parts, rest) => (.literal c :: parts, rest)
          | none => none
        else doubleParts (.digits (left - 1) (value * 16 + d)) rest

/-- Reads a scalar behind its opening quote: its text and what follows. -/
def quoted? (double : Bool) (spots : List Spot) : Option (List Char × List Spot) :=
  (if double then doubleParts .outside spots else singleParts spots).map fun (parts, rest) =>
    (foldParts .empty parts, rest)

end TypedClient.Yaml
