import TypedClient.Plan.Names

/-!
# Requests in place

Here each request writes into the names where it stands, one write after another, so that what a
failing request has written would stay. None has written anything: what can fail comes before the
first write, so a request gives what `Names.answer` gives (`runFrom_answer`).
-/

namespace TypedClient.Plan

/-- A call on the names in place: what was written before a failure stays written. -/
abbrev InPlace (α : Type) := ExceptT GenerationError (StateM Names) α

namespace InPlace

def claimFunction (name origin : String) : InPlace Unit := do
  let n ← get
  match claim n.functions name origin with
  | .ok functions => set { n with functions := functions }
  | .error first => throw (.functionCollision name first origin)

def claimType (name origin : String) : InPlace Unit := do
  let n ← get
  match claim n.types name origin with
  | .ok types => set { n with types := types }
  | .error first => throw (.modelCollision name first origin)

/-- The name is claimed first, then the enumeration is stored, then its position is entered in the
index. -/
def declareEnum (name : String) (values : List Json) (origin : String) : InPlace Nat := do
  let n ← get
  match n.byName.lookup name with
  | some i =>
    let e := n.enumAt i
    if Json.sameItems e.values values then pure i else throw (.enumCollision name e.values values)
  | none =>
    claimType name origin
    modify fun claimed => { claimed with enums := claimed.enums ++ [⟨name, membersOf values⟩] }
    let i := (← get).enums.length - 1
    modify fun stored => { stored with byName := (name, i) :: stored.byName }
    pure i

/-- The enumeration is declared first, then the field is entered in the index. -/
def fieldEnum (owner field : String) (values : List Json) : InPlace String := do
  let n ← get
  match n.fieldEnums.lookup (field, writtenValues values) with
  | some i => pure (n.enumAt i).name
  | none =>
    let name := Naming.enumName owner field
    let i ← declareEnum name values ("enum " ++ owner ++ "." ++ field)
    modify fun declared =>
      { declared with fieldEnums := ((field, writtenValues values), i) :: declared.fieldEnums }
    pure name

def answer : NameRequest → InPlace String
  | .function name origin => do
    claimFunction name origin
    pure name
  | .type name origin => do
    claimType name origin
    pure name
  | .fieldEnum owner field values => fieldEnum owner field values
  | .namedEnum name values origin => do
    let _ ← declareEnum name values origin
    pure name

/-- The result of a call and the names that it leaves behind. -/
def runFrom {α : Type} (m : InPlace α) (n : Names) : Except GenerationError α × Names :=
  m.run.run n

/-- The result and the names of a call that changes nothing if it fails. -/
def kept {α : Type} (n : Names) :
    Except GenerationError (α × Names) → Except GenerationError α × Names
  | .ok (a, next) => (.ok a, next)
  | .error e => (.error e, n)

section Agreement

variable {α β : Type}

theorem runFrom_get_bind (f : Names → InPlace β) (n : Names) :
    runFrom (get >>= f) n = runFrom (f n) n := rfl

theorem runFrom_modify_bind (f : Names → Names) (g : PUnit → InPlace β) (n : Names) :
    runFrom (modify f >>= g) n = runFrom (g ⟨⟩) (f n) := rfl

theorem runFrom_bind (m : InPlace α) (f : α → InPlace β) (n : Names) :
    runFrom (m >>= f) n =
      match runFrom m n with
      | (.ok a, next) => runFrom (f a) next
      | (.error e, next) => (.error e, next) := by
  unfold runFrom
  rw [ExceptT.run_bind, StateT.run_bind]
  cases m.run.run n with
  | mk r next => cases r <;> rfl

theorem runFrom_claimFunction (name origin : String) (n : Names) :
    runFrom (claimFunction name origin) n = kept n ((n.claimFunction name origin).map ((), ·)) := by
  rw [claimFunction, runFrom_get_bind, Names.claimFunction]
  cases claim n.functions name origin <;> rfl

theorem runFrom_claimType (name origin : String) (n : Names) :
    runFrom (claimType name origin) n = kept n ((n.claimType name origin).map ((), ·)) := by
  rw [claimType, runFrom_get_bind, Names.claimType]
  cases claim n.types name origin <;> rfl

theorem runFrom_declareEnum (name : String) (values : List Json) (origin : String) (n : Names) :
    runFrom (declareEnum name values origin) n = kept n (n.declareEnum name values origin) := by
  rw [declareEnum, runFrom_get_bind, Names.declareEnum]
  cases n.byName.lookup name with
  | some i =>
      simp only
      split <;> rfl
  | none =>
      simp only
      rw [runFrom_bind, runFrom_claimType]
      cases n.claimType name origin with
      | error e => rfl
      | ok claimed =>
          have hlength : (claimed.enums ++ [(⟨name, membersOf values⟩ : Enumeration)]).length - 1 =
              claimed.enums.length := by simp
          simp only [Except.map, kept, runFrom_modify_bind, runFrom_get_bind, hlength]
          rfl

theorem runFrom_fieldEnum (owner field : String) (values : List Json) (n : Names) :
    runFrom (fieldEnum owner field values) n = kept n (n.fieldEnum owner field values) := by
  rw [fieldEnum, runFrom_get_bind, Names.fieldEnum]
  simp only
  cases n.fieldEnums.lookup (field, writtenValues values) with
  | some i => rfl
  | none =>
      simp only
      rw [runFrom_bind, runFrom_declareEnum]
      cases n.declareEnum (Naming.enumName owner field) values
        ("enum " ++ owner ++ "." ++ field) <;> rfl

/-- A request in place gives what `Names.answer` gives, and it leaves the names as they were if it
fails. -/
theorem runFrom_answer (r : NameRequest) (n : Names) :
    runFrom (answer r) n = kept n (n.answer r) := by
  cases r with
  | function name origin =>
      rw [answer, runFrom_bind, runFrom_claimFunction, Names.answer]
      cases n.claimFunction name origin <;> rfl
  | type name origin =>
      rw [answer, runFrom_bind, runFrom_claimType, Names.answer]
      cases n.claimType name origin <;> rfl
  | fieldEnum owner field values => exact runFrom_fieldEnum owner field values n
  | namedEnum name values origin =>
      rw [answer, runFrom_bind, runFrom_declareEnum, Names.answer, Names.namedEnum]
      cases n.declareEnum name values origin <;> rfl

end Agreement

end InPlace

end TypedClient.Plan
