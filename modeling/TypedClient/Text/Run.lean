/-!
# Runs of code points

Properties of characters are tables of runs.  A run names its first and last code point and the
distance between its members, so that the alternating capital and small letters of many alphabets
take one entry.
-/

namespace TypedClient.Text

/-- The code points `first, first + step, …, last`. -/
structure Run where
  first : Nat
  last : Nat
  step : Nat

/-- Whether the run has the code point. -/
def Run.contains (r : Run) (n : Nat) : Bool :=
  r.first ≤ n && n ≤ r.last && (n - r.first) % r.step == 0

/-- Whether some run of the table has the code point. -/
def Run.memberOf (runs : List Run) (n : Nat) : Bool := runs.any (·.contains n)

theorem Run.memberOf_nil (n : Nat) : Run.memberOf [] n = false := rfl

theorem Run.memberOf_cons (r : Run) (rs : List Run) (n : Nat) :
    Run.memberOf (r :: rs) n = (r.contains n || Run.memberOf rs n) := rfl

end TypedClient.Text
