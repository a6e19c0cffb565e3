import TypedClient.Json.Token

/-!
# JSON values from text

The parser keeps the open arrays and objects on a stack and takes one token at a time.  Values
nest at most 127 levels deep, and of several members with one key the last value counts, at the
place of the first.
-/

namespace TypedClient.Json

/-- An open array or object with what has been read of it. -/
inductive Frame where
  /-- The items so far, in reverse. -/
  | items (done : List Json)
  /-- The members so far. -/
  | members (done : List (String × Json))
  /-- The members so far and the key whose value is being read. -/
  | member (done : List (String × Json)) (key : String)

/-- What may come next. -/
inductive Expect where
  /-- A value. -/
  | value
  /-- A value or the end of the array, just behind its opening. -/
  | firstItem
  /-- A key or the end of the object, just behind its opening. -/
  | firstKey
  /-- A key. -/
  | key
  /-- The colon behind a key. -/
  | colon
  /-- A comma or the end of the innermost frame. -/
  | separator
  /-- Nothing: the value is complete. -/
  | nothing (value : Json)

/-- The state of the parser. -/
structure Parse where
  stack : List Frame
  expect : Expect

/-- Levels of nesting that are accepted. -/
def maxNesting : Nat := 127

/-- Hands a complete value to the innermost frame. -/
def Parse.complete (stack : List Frame) (v : Json) : Option Parse :=
  match stack with
  | [] => some ⟨[], .nothing v⟩
  | .items done :: rest => some ⟨.items (v :: done) :: rest, .separator⟩
  | .member done key :: rest => some ⟨.members (put key v done) :: rest, .separator⟩
  | .members _ :: _ => none

/-- Opens a frame, unless the nesting is too deep. -/
def Parse.enter (stack : List Frame) (frame : Frame) (expect : Expect) : Option Parse :=
  if stack.length < maxNesting then some ⟨frame :: stack, expect⟩ else none

/-- Takes the token that begins a value. -/
def Parse.beginValue (stack : List Frame) : Token → Option Parse
  | .openBracket => enter stack (.items []) .firstItem
  | .openBrace => enter stack (.members []) .firstKey
  | .text s => complete stack (.string s)
  | .scalar v => complete stack v
  | _ => none

/-- One step of the parser. -/
def Parse.step (p : Parse) (t : Token) : Option Parse :=
  match p.expect, p.stack, t with
  | .value, stack, t => beginValue stack t
  | .firstItem, .items _ :: rest, .closeBracket => complete rest (.array [])
  | .firstItem, stack, t => beginValue stack t
  | .firstKey, .members _ :: rest, .closeBrace => complete rest (.object [])
  | .firstKey, .members done :: rest, .text k => some ⟨.member done k :: rest, .colon⟩
  | .key, .members done :: rest, .text k => some ⟨.member done k :: rest, .colon⟩
  | .colon, stack, .colon => some ⟨stack, .value⟩
  | .separator, .items done :: rest, .comma => some ⟨.items done :: rest, .value⟩
  | .separator, .items done :: rest, .closeBracket => complete rest (.array done.reverse)
  | .separator, .members done :: rest, .comma => some ⟨.members done :: rest, .key⟩
  | .separator, .members done :: rest, .closeBrace => complete rest (.object done)
  | _, _, _ => none

/-- Takes all tokens. -/
def Parse.run (p : Parse) : List Token → Option Parse
  | [] => some p
  | t :: ts =>
    match p.step t with
    | none => none
    | some next => next.run ts

/-- The value that a text stands for; `none` if it is no JSON. -/
def parse? (text : String) : Option Json :=
  match tokens? text.toList with
  | none => none
  | some ts =>
    match Parse.run ⟨[], .value⟩ ts with
    | some ⟨_, .nothing v⟩ => some v
    | _ => none

end TypedClient.Json
