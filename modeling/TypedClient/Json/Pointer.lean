import TypedClient.Json.Basic
import TypedClient.Text.Blank

/-!
# JSON pointers

A pointer is a path into a value: keys and array positions, each behind a slash.  In a step `~1`
stands for a slash and `~0` for a tilde.
-/

namespace TypedClient.Json

open TypedClient.Text

/-- The key that a step of a pointer stands for. -/
def unescapeStep (step : List Char) : List Char :=
  replaceAll ['~', '0'] ['~'] (replaceAll ['~', '1'] ['/'] step)

/-- The position that a step stands for: digits without a superfluous zero in front. -/
def arrayIndex? (step : List Char) : Option Nat :=
  match step with
  | [] => none
  | c :: cs =>
    if (c :: cs).all Char.isDigit && (c != '0' || cs.isEmpty) then
      some ((c :: cs).foldl (fun n d => n * 10 + (d.toNat - 48)) 0)
    else none

/-- Takes one step into a value. -/
def step? (v : Json) (step : List Char) : Option Json :=
  match v with
  | object ms => find? (String.ofList (unescapeStep step)) ms
  | array xs =>
    match arrayIndex? (unescapeStep step) with
    | some i => xs[i]?
    | none => none
  | _ => none

/-- Takes the steps one after another. -/
def steps? (v : Json) : List (List Char) → Option Json
  | [] => some v
  | s :: rest =>
    match v.step? s with
    | some next => next.steps? rest
    | none => none

theorem steps?_nil (v : Json) : v.steps? [] = some v := rfl

/-- The part of the value that a pointer leads to.  The empty pointer leads to the whole value, and
every other one starts with a slash. -/
def pointer? (v : Json) (path : List Char) : Option Json :=
  match path with
  | [] => some v
  | '/' :: rest => v.steps? (splitAt (· == '/') rest)
  | _ => none

end TypedClient.Json
