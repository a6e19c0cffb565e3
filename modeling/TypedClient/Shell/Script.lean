import TypedClient.Text.Blank

/-!
# Shell scripts

A script is a list of steps, each a program with its words.  What stands between two steps decides
whether the second runs: always, or only after a success or a failure of the first.  Quotes keep
blanks and marks inside a word.
-/

namespace TypedClient.Shell

/-- When a step runs. -/
inductive Condition where
  | always
  | afterSuccess
  | afterFailure
  deriving DecidableEq

/-- Whether a step runs when the last one ended with the exit code. -/
def Condition.holds : Condition → Int → Bool
  | always, _ => true
  | afterSuccess, code => code == 0
  | afterFailure, code => code != 0

/-- Where a step writes to. -/
inductive Redirection where
  | none
  /-- Its output goes with the errors. -/
  | toErrors
  /-- Its errors go with the output. -/
  | toOutput
  deriving DecidableEq

/-- A step of a script. -/
structure Step where
  condition : Condition
  words : List String
  redirection : Redirection

/-- A part of a script. -/
inductive Part where
  | word (text : String)
  | next (condition : Condition)
  | redirect (redirection : Redirection)

/-- Where the reader of a script stands.  Characters of a word are kept in reverse. -/
inductive Place where
  | between
  | inWord (done : List Char)
  | inQuotes (done : List Char) (quote : Char)

/-- The word that has been read. -/
def Place.close : Place → List Part
  | inWord done => [.word (String.ofList done.reverse)]
  | _ => []

/-- Takes a mark between words or steps: its part and what follows. -/
def mark? : List Char → Option (List Part × List Char)
  | '>' :: '&' :: '2' :: rest => some ([.redirect .toErrors], rest)
  | '1' :: '>' :: '&' :: '2' :: rest => some ([.redirect .toErrors], rest)
  | '2' :: '>' :: '&' :: '1' :: rest => some ([.redirect .toOutput], rest)
  | '&' :: '&' :: rest => some ([.next .afterSuccess], rest)
  | '|' :: '|' :: rest => some ([.next .afterFailure], rest)
  | ';' :: rest => some ([.next .always], rest)
  | '\n' :: rest => some ([.next .always], rest)
  | ' ' :: rest => some ([], rest)
  | '\t' :: rest => some ([], rest)
  | _ => none

/-- The parts of a script; `none` if a quote stays open. -/
def parts? (place : Place) : (fuel : Nat) → List Char → Option (List Part)
  | _, [] =>
    match place with
    | .inQuotes _ _ => none
    | place => some place.close
  | 0, _ => none
  | fuel + 1, c :: cs =>
    match place with
    | .inQuotes done quote =>
      if c == quote then parts? (.inWord done) fuel cs
      else
        match c, cs with
        | '\\', d :: rest =>
          if quote == '"' && ['"', '\\', '$', '\x60'].contains d then
            parts? (.inQuotes (d :: done) quote) fuel rest
          else parts? (.inQuotes (c :: done) quote) fuel cs
        | _, _ => parts? (.inQuotes (c :: done) quote) fuel cs
    | place =>
      let done :=
        match place with
        | .inWord done => done
        | _ => []
      let isFirst :=
        match place with
        | .between => true
        | _ => false
      match if isFirst || !c.isDigit then mark? (c :: cs) else none with
      | some (marks, rest) =>
        (parts? .between fuel rest).map fun ps => place.close ++ marks ++ ps
      | none =>
        if c == '\'' || c == '"' then parts? (.inQuotes done c) fuel cs
        else
          match c, cs with
          | '\\', d :: rest => parts? (.inWord (d :: done)) fuel rest
          | _, _ => parts? (.inWord (c :: done)) fuel cs

/-- The steps that parts make.  `current` is the step under construction. -/
def stepsOf (current : Step) : List Part → List Step
  | [] => [current]
  | .word text :: rest => stepsOf { current with words := current.words ++ [text] } rest
  | .redirect r :: rest => stepsOf { current with redirection := r } rest
  | .next condition :: rest => current :: stepsOf ⟨condition, [], .none⟩ rest

/-- The steps of a script; `none` if a quote stays open. -/
def script? (text : String) : Option (List Step) :=
  (parts? .between (text.length + 1) text.toList).map fun ps =>
    (stepsOf ⟨.always, [], .none⟩ ps).filter fun s => !s.words.isEmpty

theorem stepsOf_nil (current : Step) : stepsOf current [] = [current] := rfl

end TypedClient.Shell
