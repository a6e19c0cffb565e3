import TypedClient.Error
import TypedClient.Naming
import TypedClient.Plan.Model

/-!
# Names of a run

Functions and classes are claimed by what they stand for, so that no two things share a name.
Enumerations are kept in a list with two indexes of positions in it, one by name and one by field;
the enumeration of a field is shared by all fields of the same name with the same values.  A request
that fails gives no new names, so nothing changes.
-/

namespace TypedClient.Plan

/-- The names that have been given. -/
structure Names where
  /-- Function names with what they stand for. -/
  functions : List (String × String) := []
  /-- Class names with what they stand for. -/
  types : List (String × String) := []
  /-- The enumerations in the order in which they were declared. -/
  enums : List Enumeration := []
  /-- The positions of the enumerations, by name. -/
  byName : List (String × Nat) := []
  /-- The positions of the enumerations of fields, by field name and written values. -/
  fieldEnums : List ((String × String) × Nat) := []

/-- The values of an enumeration in one text. -/
def writtenValues (values : List Json) : String := showValues values

/-- Claims a name for `origin`.  A name may be claimed again for the same thing; otherwise the
result is what it stands for already. -/
def claim (claims : List (String × String)) (name origin : String) :
    Except String (List (String × String)) :=
  match claims.lookup name with
  | some first => if first == origin then .ok claims else .error first
  | none => .ok ((name, origin) :: claims)

/-- A name that is free is claimed. -/
theorem claim_of_lookup_eq_none {claims : List (String × String)} {name : String}
    (h : claims.lookup name = none) (origin : String) :
    claim claims name origin = .ok ((name, origin) :: claims) := by
  simp [claim, h]

/-- A name that stands for something else is refused. -/
theorem claim_of_lookup_ne {claims : List (String × String)} {name first origin : String}
    (h : claims.lookup name = some first) (hne : first ≠ origin) :
    claim claims name origin = .error first := by
  simp [claim, h, hne]

/-- The member name of a value, which need not be distinct. -/
def memberBase : Json → String
  | .string text => Naming.textMemberName text
  | v => Naming.literalMemberName v.text

/-- The members of an enumeration, with distinct identifiers. -/
def membersOf (values : List Json) : List Member :=
  List.zipWith Member.mk (Lexical.uniqueAll [] (values.map memberBase)) values

namespace Names

/-- Claims a function name. -/
def claimFunction (n : Names) (name origin : String) : Except GenerationError Names :=
  match claim n.functions name origin with
  | .ok functions => .ok { n with functions := functions }
  | .error first => .error (.functionCollision name first origin)

/-- Claims a class name. -/
def claimType (n : Names) (name origin : String) : Except GenerationError Names :=
  match claim n.types name origin with
  | .ok types => .ok { n with types := types }
  | .error first => .error (.modelCollision name first origin)

/-- Whether a class name has been given. -/
def hasType (n : Names) (name : String) : Bool := (n.types.lookup name).isSome

/-- Whether a function name has been given. -/
def hasFunction (n : Names) (name : String) : Bool := (n.functions.lookup name).isSome

/-- The enumeration at a position.  The indexes hold no position beyond the end of the list. -/
def enumAt (n : Names) (i : Nat) : Enumeration := n.enums.getD i ⟨"", []⟩

/-- The enumeration of a name. -/
def enum? (n : Names) (name : String) : Option Enumeration :=
  (n.byName.lookup name).map n.enumAt

/-- Declares an enumeration and gives its position.  It may be declared again with equal values. -/
def declareEnum (n : Names) (name : String) (values : List Json) (origin : String) :
    Except GenerationError (Nat × Names) :=
  match n.byName.lookup name with
  | some i =>
    let e := n.enumAt i
    if Json.sameItems e.values values then .ok (i, n)
    else .error (.enumCollision name e.values values)
  | none =>
    match n.claimType name origin with
    | .error e => .error e
    | .ok claimed =>
      let i := claimed.enums.length
      .ok (i,
        { claimed with
          enums := claimed.enums ++ [⟨name, membersOf values⟩]
          byName := (name, i) :: claimed.byName })

/-- The name of the enumeration that a field declares in place. -/
def fieldEnum (n : Names) (owner field : String) (values : List Json) :
    Except GenerationError (String × Names) :=
  let key := (field, writtenValues values)
  match n.fieldEnums.lookup key with
  | some i => .ok ((n.enumAt i).name, n)
  | none =>
    let name := Naming.enumName owner field
    match n.declareEnum name values ("enum " ++ owner ++ "." ++ field) with
    | .error e => .error e
    | .ok (i, declared) =>
      .ok (name, { declared with fieldEnums := (key, i) :: declared.fieldEnums })

/-- The name of an enumeration that has one of its own. -/
def namedEnum (n : Names) (name : String) (values : List Json) (origin : String) :
    Except GenerationError (String × Names) :=
  match n.declareEnum name values origin with
  | .error e => .error e
  | .ok (_, declared) => .ok (name, declared)

end Names

/-- A request for a name. -/
inductive NameRequest where
  | function (name origin : String)
  | type (name origin : String)
  | fieldEnum (owner field : String) (values : List Json)
  | namedEnum (name : String) (values : List Json) (origin : String)

/-- Answers a request with a name and the names that hold from then on. -/
def Names.answer (n : Names) : NameRequest → Except GenerationError (String × Names)
  | .function name origin => (n.claimFunction name origin).map (name, ·)
  | .type name origin => (n.claimType name origin).map (name, ·)
  | .fieldEnum owner field values => n.fieldEnum owner field values
  | .namedEnum name values origin => n.namedEnum name values origin

/-- The names after a request.  Nothing changes if the request fails. -/
def Names.after (n : Names) (r : NameRequest) : Names :=
  match n.answer r with
  | .ok (_, next) => next
  | .error _ => n

/-- The names after a run of requests. -/
def Names.afterAll (n : Names) (rs : List NameRequest) : Names := rs.foldl Names.after n

theorem Names.afterAll_nil (n : Names) : n.afterAll [] = n := rfl

theorem Names.afterAll_cons (n : Names) (r : NameRequest) (rs : List NameRequest) :
    n.afterAll (r :: rs) = (n.after r).afterAll rs := rfl

end TypedClient.Plan
