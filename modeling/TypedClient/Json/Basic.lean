import TypedClient.Number.Shortest

/-!
# JSON values

A document is a tree of JSON values.  An object keeps its members in the order in which they were
first written; `Json.put` replaces the value of a key at its first position.  `Json.same` is
equality of values, for which the order of members and the sign of zero do not count.
-/

namespace TypedClient

open Number

/-- A number: whole ones within 64 bits are kept exactly, all others are doubles. -/
inductive JsonNumber where
  | int (value : Int)
  | double (value : Double)
  deriving DecidableEq

/-- A JSON value. -/
inductive Json where
  | null
  | bool (value : Bool)
  | number (value : JsonNumber)
  | string (value : String)
  | array (items : List Json)
  | object (members : List (String × Json))
  deriving Inhabited

namespace JsonNumber

/-- The written form of a number. -/
def text : JsonNumber → String
  | int value => toString value
  | double value => String.ofList value.text

/-- Equality of values.  A whole number is never equal to a double. -/
def same : JsonNumber → JsonNumber → Bool
  | int a, int b => a == b
  | double a, double b => a.sameValue b
  | _, _ => false

theorem same_refl (n : JsonNumber) : n.same n = true := by
  cases n <;> simp [same, Double.sameValue_refl]

end JsonNumber

namespace Json

/-- The value of a key in a list of members. -/
def find? (key : String) (members : List (String × Json)) : Option Json := members.lookup key

/-- Sets the value of a key: at its place if the key is there, else behind all others. -/
def put (key : String) (value : Json) : List (String × Json) → List (String × Json)
  | [] => [(key, value)]
  | (k, v) :: rest => if k == key then (k, value) :: rest else (k, v) :: put key value rest

theorem put_nil (key : String) (value : Json) : put key value [] = [(key, value)] := rfl

theorem put_cons (key : String) (value : Json) (k : String) (v : Json)
    (rest : List (String × Json)) :
    put key value ((k, v) :: rest) =
      if k == key then (k, value) :: rest else (k, v) :: put key value rest := rfl

/-- The members of a list of pairs, where the last value of a key counts. -/
def members (pairs : List (String × Json)) : List (String × Json) :=
  pairs.foldl (fun acc (key, value) => put key value acc) []

/-- The value of a key, if the value is an object that has it. -/
def get? (key : String) : Json → Option Json
  | object ms => find? key ms
  | _ => none

/-- The text, if the value is one. -/
def asString? : Json → Option String
  | string s => some s
  | _ => none

/-- The truth value, if the value is one. -/
def asBool? : Json → Option Bool
  | bool b => some b
  | _ => none

/-- The items, if the value is an array. -/
def asArray? : Json → Option (List Json)
  | array xs => some xs
  | _ => none

/-- The members, if the value is an object. -/
def asObject? : Json → Option (List (String × Json))
  | object ms => some ms
  | _ => none

/-- Whether the value is a text. -/
def isString (v : Json) : Bool := v.asString?.isSome

mutual

/-- Equality of values: members may stand in any order. -/
def same : Json → Json → Bool
  | null, null => true
  | bool a, bool b => a == b
  | number a, number b => a.same b
  | string a, string b => a == b
  | array xs, array ys => sameItems xs ys
  | object xs, object ys => xs.length == ys.length && sameMembers xs ys
  | _, _ => false

/-- Equality of items, one by one. -/
def sameItems : List Json → List Json → Bool
  | [], [] => true
  | x :: xs, y :: ys => same x y && sameItems xs ys
  | _, _ => false

/-- Whether every member of the first list has an equal one in the second. -/
def sameMembers : List (String × Json) → List (String × Json) → Bool
  | [], _ => true
  | (k, v) :: rest, ys =>
    (match find? k ys with
      | some w => same v w
      | none => false) && sameMembers rest ys

end

end Json

end TypedClient
