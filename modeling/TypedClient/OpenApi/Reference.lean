import TypedClient.Error
import TypedClient.Json.Pointer

/-!
# References inside a document

A value that holds a text under `$ref` stands for the value that the text points to.  References
may be chained, but only so far, and they may not leave the document.
-/

namespace TypedClient.OpenApi

open Text

/-- The number of references that are looked at, one behind the other. -/
def maxHops : Nat := 8

/-- The reference that a value holds, if it holds one. -/
def reference? (v : Json) : Option String := (v.get? "$ref").bind Json.asString?

/-- The value that a reference points to. -/
def target (root : Json) (reference : String) : Except GenerationError Json :=
  match reference.toList with
  | '#' :: path =>
    match root.pointer? path with
    | some v => .ok v
    | none => .error (.unresolved (.dangling reference))
  | _ => .error (.unresolved (.external reference))

/-- Follows references from a value, looking at no more than `hops` values. -/
def followFrom (root : Json) : (hops : Nat) → Json → Except GenerationError Json
  | 0, _ => .error (.unresolved (.deepChain maxHops))
  | hops + 1, v =>
    match reference? v with
    | none => .ok v
    | some reference =>
      match target root reference with
      | .ok next => followFrom root hops next
      | .error e => .error e

/-- The value that a value stands for. -/
def resolve (root v : Json) : Except GenerationError Json := followFrom root maxHops v

theorem followFrom_zero (root v : Json) :
    followFrom root 0 v = .error (.unresolved (.deepChain maxHops)) := rfl

/-- A value without a reference stands for itself. -/
theorem followFrom_of_reference?_eq_none {root v : Json} (h : reference? v = none) (hops : Nat) :
    followFrom root (hops + 1) v = .ok v := by
  simp [followFrom, h]

/-- A value with a reference stands for what its target stands for. -/
theorem followFrom_of_target {root v next : Json} {reference : String}
    (h : reference? v = some reference) (ht : target root reference = .ok next) (hops : Nat) :
    followFrom root (hops + 1) v = followFrom root hops next := by
  simp [followFrom, h, ht]

end TypedClient.OpenApi
