import TypedClient.Proofs.Names.Enumerations
import TypedClient.Proofs.Names.InPlace

/-!
# Runs of requests

`SoundRun` says what any run of requests gives, from no names at all, where each request writes in
place: names are never given twice, both indexes of the enumerations agree with their list, a name
that was given for some values names an enumeration of these values, and a failing request changes
nothing. What a name was first claimed for is read off
the run: `functionClaims` and `typeClaims` list the claims in the order in which they were made.
-/

namespace TypedClient.Plan

/-! ## Claims of a run -/

/-- The function name that a request claims, and what for. -/
def NameRequest.functionClaim? : NameRequest → Option (String × String)
  | .function name origin => some (name, origin)
  | _ => none

namespace Names

/-- The claim that comes with declaring an enumeration: none if the enumeration is there. -/
def enumClaim? (n : Names) (name origin : String) : Option (String × String) :=
  if (n.byName.lookup name).isSome then none else some (name, origin)

/-- The class name that a request claims, and what for. -/
def typeClaim? (n : Names) : NameRequest → Option (String × String)
  | .function _ _ => none
  | .type name origin => some (name, origin)
  | .fieldEnum owner field values =>
    if (n.fieldEnums.lookup (field, writtenValues values)).isSome then none
    else n.enumClaim? (Naming.enumName owner field) ("enum " ++ owner ++ "." ++ field)
  | .namedEnum name _ origin => n.enumClaim? name origin

/-- The claims of class names in a run, in the order in which they are made. -/
def typeClaims (n : Names) : List NameRequest → List (String × String)
  | [] => []
  | r :: rs => (n.typeClaim? r).toList ++ (n.after r).typeClaims rs

end Names

/-- The claims of function names in a run. -/
def functionClaims (rs : List NameRequest) : List (String × String) :=
  rs.filterMap NameRequest.functionClaim?

namespace Names

section Step

variable {n next : Names} {r : NameRequest} {name origin : String} {values : List Json}
  {e : GenerationError}

theorem after_of_answer_ok (h : n.answer r = .ok (name, next)) : n.after r = next := by
  rw [after, h]

theorem after_of_answer_error (h : n.answer r = .error e) : n.after r = n := by
  rw [after, h]

theorem functions_of_declareEnum {i : Nat}
    (h : n.declareEnum name values origin = .ok (i, next)) : next.functions = n.functions := by
  rcases declareEnum_eq_ok h with ⟨-, -, rfl⟩ | ⟨-, -, -, -, rfl⟩ <;> rfl

theorem lookup_types_of_declareEnum {i : Nat}
    (h : n.declareEnum name values origin = .ok (i, next)) (other : String) :
    next.types.lookup other = (n.types ++ (n.enumClaim? name origin).toList).lookup other := by
  unfold enumClaim?
  rcases declareEnum_eq_ok h with ⟨hfound, -, rfl⟩ | ⟨hnone, -, types, htypes, rfl⟩
  · rw [hfound]
    simp
  · rw [hnone]
    exact lookup_of_claim_eq_ok htypes other

/-- A new enumeration is refused exactly if its name stands for something else. -/
theorem declareEnum_eq_error_iff (values : List Json) (hnone : n.byName.lookup name = none) :
    n.declareEnum name values origin = .error e ↔ ∃ first, n.types.lookup name = some first ∧
      first ≠ origin ∧ e = .modelCollision name first origin := by
  rw [← claimType_eq_error_iff]
  unfold declareEnum
  rw [hnone]
  cases n.claimType name origin <;> simp

theorem answer_function_eq_error_iff :
    n.answer (.function name origin) = .error e ↔ ∃ first, n.functions.lookup name = some first ∧
      first ≠ origin ∧ e = .functionCollision name first origin := by
  rw [← claimFunction_eq_error_iff, answer]
  cases n.claimFunction name origin <;> simp [Except.map]

theorem answer_fieldEnum_of_lookup {field : String} {i : Nat} (owner : String)
    (h : n.fieldEnums.lookup (field, writtenValues values) = some i) :
    n.answer (.fieldEnum owner field values) = .ok ((n.enumAt i).name, n) := by
  rw [answer, fieldEnum]
  simp only [h]

/-- A request that claims a class name is refused exactly if the name stands for something else. -/
theorem answer_eq_error_iff_of_typeClaim? (h : n.typeClaim? r = some (name, origin)) :
    n.answer r = .error e ↔ ∃ first, n.types.lookup name = some first ∧
      first ≠ origin ∧ e = .modelCollision name first origin := by
  cases r with
  | function name' origin' => cases h
  | type name' origin' =>
      cases h
      rw [← claimType_eq_error_iff, answer]
      cases n.claimType name origin <;> simp [Except.map]
  | fieldEnum owner field values =>
      rw [typeClaim?] at h
      split at h
      · cases h
      · next hkey =>
          rw [enumClaim?] at h
          split at h
          · cases h
          · next henum =>
              cases h
              rw [← declareEnum_eq_error_iff values (Option.not_isSome_iff_eq_none.1 henum),
                answer, fieldEnum]
              simp only [Option.not_isSome_iff_eq_none.1 hkey]
              cases n.declareEnum (Naming.enumName owner field) values
                ("enum " ++ owner ++ "." ++ field) <;> simp
  | namedEnum name' values origin' =>
      rw [typeClaim?, enumClaim?] at h
      split at h
      · cases h
      · next henum =>
          cases h
          rw [← declareEnum_eq_error_iff values (Option.not_isSome_iff_eq_none.1 henum), answer,
            namedEnum]
          cases n.declareEnum name values origin <;> simp

theorem functions_after_of_functionClaim?_eq_none (h : r.functionClaim? = none) :
    (n.after r).functions = n.functions := by
  cases hr : n.answer r with
  | error e => rw [after_of_answer_error hr]
  | ok result =>
      rw [after_of_answer_ok hr]
      cases r with
      | function name origin => cases h
      | type name origin =>
          obtain ⟨types, -, heq⟩ := claimType_eq_ok (map_eq_ok hr)
          rw [heq]
      | fieldEnum owner field values =>
          rcases fieldEnum_eq_ok hr with ⟨-, -, -, heq⟩ | ⟨-, -, i, declared, hdeclared, heq⟩
          · rw [heq]
          · rw [heq, functions_of_declareEnum hdeclared]
      | namedEnum name values origin =>
          obtain ⟨-, i, hdeclared⟩ := namedEnum_eq_ok hr
          exact functions_of_declareEnum hdeclared

theorem lookup_functions_after (n : Names) (r : NameRequest) (other : String) :
    (n.after r).functions.lookup other =
      (n.functions ++ r.functionClaim?.toList).lookup other := by
  cases hclaim : r.functionClaim? with
  | none =>
      rw [functions_after_of_functionClaim?_eq_none hclaim, Option.toList_none, List.append_nil]
  | some claimed =>
      cases r with
      | function name origin =>
          cases hclaim
          cases h : n.answer (.function name origin) with
          | error e =>
              obtain ⟨first, hfirst, -, -⟩ := answer_function_eq_error_iff.1 h
              rw [after_of_answer_error h]
              exact (lookup_append_of_lookup hfirst origin other).symm
          | ok result =>
              obtain ⟨functions, hfunctions, heq⟩ := claimFunction_eq_ok (map_eq_ok h)
              rw [after_of_answer_ok h, heq]
              exact lookup_of_claim_eq_ok hfunctions other
      | _ => cases hclaim

theorem lookup_types_after (n : Names) (r : NameRequest) (other : String) :
    (n.after r).types.lookup other = (n.types ++ (n.typeClaim? r).toList).lookup other := by
  cases hr : n.answer r with
  | error e =>
      rw [after_of_answer_error hr]
      cases hclaim : n.typeClaim? r with
      | none => rw [Option.toList_none, List.append_nil]
      | some claimed =>
          obtain ⟨first, hfirst, -, -⟩ := (answer_eq_error_iff_of_typeClaim? hclaim).1 hr
          exact (lookup_append_of_lookup hfirst claimed.2 other).symm
  | ok result =>
      rw [after_of_answer_ok hr]
      cases r with
      | function name origin =>
          obtain ⟨functions, -, heq⟩ := claimFunction_eq_ok (map_eq_ok hr)
          rw [heq, typeClaim?, Option.toList_none, List.append_nil]
      | type name origin =>
          obtain ⟨types, htypes, heq⟩ := claimType_eq_ok (map_eq_ok hr)
          rw [heq]
          exact lookup_of_claim_eq_ok htypes other
      | fieldEnum owner field values =>
          rw [typeClaim?]
          rcases fieldEnum_eq_ok hr with
            ⟨i, hkey, -, heq⟩ | ⟨hkey, hname, i, declared, hdeclared, heq⟩
          · rw [heq, hkey, Option.isSome_some, if_pos rfl, Option.toList_none, List.append_nil]
          · rw [heq, hkey, Option.isSome_none, if_neg Bool.false_ne_true, ← hname]
            exact lookup_types_of_declareEnum hdeclared other
      | namedEnum name values origin =>
          obtain ⟨-, i, hdeclared⟩ := namedEnum_eq_ok hr
          exact lookup_types_of_declareEnum hdeclared other

end Step

/-! ## Runs -/

variable {n : Names} {rs : List NameRequest}

/-- A run of requests with proper values keeps the names coherent and takes nothing back. -/
theorem coherent_afterAll (hn : n.Coherent) (hrs : ∀ r ∈ rs, r.Proper) :
    (n.afterAll rs).Coherent ∧ n.Keeps (n.afterAll rs) := by
  -- Each request hands its names on to the rest of the run, so the first names vary.
  induction rs generalizing n with
  | nil => exact ⟨hn, Keeps.refl n⟩
  | cons r rs ih =>
      rw [afterAll_cons]
      have hstep : (n.after r).Coherent ∧ n.Keeps (n.after r) := by
        cases hr : n.answer r with
        | error e =>
            rw [after_of_answer_error hr]
            exact ⟨hn, Keeps.refl n⟩
        | ok result =>
            rw [after_of_answer_ok hr]
            obtain ⟨hcoherent, hkeeps, -⟩ :=
              coherent_of_answer hn (hrs r List.mem_cons_self) hr
            exact ⟨hcoherent, hkeeps⟩
      obtain ⟨hcoherent, hkeeps⟩ := ih hstep.1 fun r' hr' => hrs r' (List.mem_cons_of_mem r hr')
      exact ⟨hcoherent, hstep.2.trans hkeeps⟩

/-- After a run, each function name stands for what it was first claimed for. -/
theorem lookup_functions_afterAll (n : Names) (rs : List NameRequest) (name : String) :
    (n.afterAll rs).functions.lookup name = (n.functions ++ functionClaims rs).lookup name := by
  induction rs generalizing n with
  | nil => rw [afterAll_nil, functionClaims, List.filterMap_nil, List.append_nil]
  | cons r rs ih =>
      have hclaims : functionClaims (r :: rs) = r.functionClaim?.toList ++ functionClaims rs := by
        unfold functionClaims
        rw [List.filterMap_cons]
        cases r.functionClaim? <;> rfl
      rw [afterAll_cons, ih, hclaims, ← List.append_assoc, List.lookup_append,
        lookup_functions_after, ← List.lookup_append]

/-- After a run, each class name stands for what it was first claimed for. -/
theorem lookup_types_afterAll (n : Names) (rs : List NameRequest) (name : String) :
    (n.afterAll rs).types.lookup name = (n.types ++ n.typeClaims rs).lookup name := by
  induction rs generalizing n with
  | nil => rw [afterAll_nil, typeClaims, List.append_nil]
  | cons r rs ih =>
      rw [afterAll_cons, ih, typeClaims, ← List.append_assoc, List.lookup_append,
        lookup_types_after, ← List.lookup_append]

/-- A request in place: its result and the names that it leaves behind. -/
def perform (n : Names) (r : NameRequest) : Except GenerationError String × Names :=
  InPlace.runFrom (InPlace.answer r) n

/-- The names after a run of requests in place. -/
def performAll (n : Names) (rs : List NameRequest) : Names :=
  rs.foldl (fun n r => (n.perform r).2) n

theorem perform_of_answer_ok {r : NameRequest} {name : String} {next : Names}
    (h : n.answer r = .ok (name, next)) : n.perform r = (.ok name, next) := by
  rw [perform, InPlace.runFrom_answer, h, InPlace.kept]

theorem perform_of_answer_error {r : NameRequest} {e : GenerationError}
    (h : n.answer r = .error e) : n.perform r = (.error e, n) := by
  rw [perform, InPlace.runFrom_answer, h, InPlace.kept]

theorem exists_answer_of_perform_ok {r : NameRequest} {name : String}
    (h : (n.perform r).1 = .ok name) : n.answer r = .ok (name, n.after r) := by
  cases hr : n.answer r with
  | error e =>
      rw [perform_of_answer_error hr] at h
      cases h
  | ok result =>
      obtain ⟨name', next⟩ := result
      rw [perform_of_answer_ok hr] at h
      cases h
      rw [after_of_answer_ok hr]

theorem perform_eq_error_iff {r : NameRequest} {e : GenerationError} :
    (n.perform r).1 = .error e ↔ n.answer r = .error e := by
  cases hr : n.answer r with
  | error e' => rw [perform_of_answer_error hr, Except.error.injEq, Except.error.injEq]
  | ok result => simp [perform_of_answer_ok hr]

theorem performAll_eq (n : Names) (rs : List NameRequest) : n.performAll rs = n.afterAll rs := by
  have hstep : (fun (n : Names) r => (n.perform r).2) = Names.after := by
    funext n r
    cases hr : n.answer r with
    | error e => rw [perform_of_answer_error hr, after_of_answer_error hr]
    | ok result => rw [perform_of_answer_ok hr, after_of_answer_ok hr]
  rw [performAll, hstep, afterAll]

end Names

/-- The names that a run of requests in place reaches from none. -/
def reached (rs : List NameRequest) : Names := Names.performAll {} rs

/-- The enumeration has one member for each of the values, in order and with equal value, and the
identifiers of its members are valid and distinct. -/
structure Enumeration.Holds (e : Enumeration) (values : List Json) : Prop where
  same : Json.sameItems (e.members.map Member.value) values = true
  identifiers_nodup : (e.members.map Member.identifier).Nodup
  identifier_valid : ∀ m ∈ e.members, Lexical.isValidIdentifier m.identifier = true

/-- What a run of requests gives. Its parts `before` are the runs up to each of its requests. -/
structure SoundRun (rs : List NameRequest) : Prop where
  enums_nodup : ((reached rs).enums.map Enumeration.name).Nodup
  enum_claimed : ∀ e ∈ (reached rs).enums, (reached rs).hasType e.name = true
  /-- The enumerations are found by their names, and by no others. -/
  enum?_eq_some_iff : ∀ name e,
    (reached rs).enum? name = some e ↔ e ∈ (reached rs).enums ∧ e.name = name
  /-- The indexes lead to positions in the list. -/
  indexed : (reached rs).Indexed
  /-- A name that was given to some values names an enumeration of these values. -/
  enum_holds : ∀ before r after values name, rs = before ++ r :: after → values ∈ r.values? →
    ((reached before).perform r).1 = .ok name →
    ∃ e, (reached rs).enum? name = some e ∧ e.Holds values
  /-- Fields of one name with the same values share an enumeration. -/
  fieldEnum_shared : ∀ before middle after owner owner' field values name,
    rs = (before ++ .fieldEnum owner field values :: middle) ++
      .fieldEnum owner' field values :: after →
    ((reached before).perform (.fieldEnum owner field values)).1 = .ok name →
    ((reached (before ++ .fieldEnum owner field values :: middle)).perform
      (.fieldEnum owner' field values)).1 = .ok name
  /-- A claim is refused exactly if the name was first claimed for something else. -/
  function_refused : ∀ before r after name origin e, rs = before ++ r :: after →
    r.functionClaim? = some (name, origin) →
    (((reached before).perform r).1 = .error e ↔
      ∃ first, (functionClaims before).lookup name = some first ∧ first ≠ origin ∧
        e = .functionCollision name first origin)
  type_refused : ∀ before r after name origin e, rs = before ++ r :: after →
    (reached before).typeClaim? r = some (name, origin) →
    (((reached before).perform r).1 = .error e ↔
      ∃ first, (Names.typeClaims {} before).lookup name = some first ∧ first ≠ origin ∧
        e = .modelCollision name first origin)
  refused_unchanged : ∀ before r after e, rs = before ++ r :: after →
    ((reached before).perform r).1 = .error e → ((reached before).perform r).2 = reached before

/-- An enumeration that is found with some values holds them. -/
theorem Names.Coherent.holds {n : Names} (hn : n.Coherent) {name : String} {e : Enumeration}
    {values : List Json} (he : n.enum? name = some e)
    (hsame : Json.sameItems e.values values = true) : e.Holds values := by
  have hmembers := hn.enum_members e (hn.indexed.enum?_eq_some_iff.1 he).1
  refine ⟨hsame, ?_, ?_⟩
  · rw [hmembers]
    exact nodup_identifier_membersOf e.values
  · intro m hm
    rw [hmembers] at hm
    exact isValidIdentifier_of_mem_membersOf e.values hm

theorem reached_eq (rs : List NameRequest) : reached rs = Names.afterAll {} rs :=
  Names.performAll_eq {} rs

theorem reached_append_cons (before : List NameRequest) (r : NameRequest)
    (after : List NameRequest) :
    reached (before ++ r :: after) = ((reached before).after r).afterAll after := by
  rw [reached_eq, reached_eq, Names.afterAll, Names.afterAll, List.foldl_append, List.foldl_cons]
  rfl

section Run

variable {before after rs : List NameRequest} {r : NameRequest} {name : String}

theorem coherent_reached (h : ∀ r ∈ rs, r.Proper) : (reached rs).Coherent := by
  rw [reached_eq]
  exact (Names.coherent_afterAll Names.coherent_empty h).1

/-- What holds behind a request that succeeds is kept to the end of the run. -/
theorem keeps_reached (h : ∀ r' ∈ before ++ r :: after, r'.Proper)
    (hr : (reached before).answer r = .ok (name, (reached before).after r)) :
    ((reached before).after r).Coherent ∧
      ((reached before).after r).Keeps (reached (before ++ r :: after)) := by
  have hbefore : ∀ r' ∈ before, r'.Proper := fun r' hr' => h r' (List.mem_append_left _ hr')
  have hafter : ∀ r' ∈ after, r'.Proper :=
    fun r' hr' => h r' (List.mem_append_right _ (List.mem_cons_of_mem r hr'))
  obtain ⟨hcoherent, -, -⟩ := Names.coherent_of_answer (coherent_reached hbefore)
    (h r (List.mem_append_right _ List.mem_cons_self)) hr
  rw [reached_append_cons]
  exact ⟨hcoherent, (Names.coherent_afterAll hcoherent hafter).2⟩

end Run

/-- Every run of requests with proper values is sound. -/
theorem soundRun (rs : List NameRequest) (h : ∀ r ∈ rs, r.Proper) : SoundRun rs where
  enums_nodup := (coherent_reached h).enums_nodup
  enum_claimed := (coherent_reached h).enum_claimed
  enum?_eq_some_iff := fun _ _ => (coherent_reached h).indexed.enum?_eq_some_iff
  indexed := (coherent_reached h).indexed
  enum_holds := by
    rintro before r after values name rfl hvalues hr
    have hanswer := Names.exists_answer_of_perform_ok hr
    have hbefore := coherent_reached fun r' hr' => h r' (List.mem_append_left _ hr')
    obtain ⟨-, -, hfound⟩ :=
      Names.coherent_of_answer hbefore (h r (List.mem_append_right _ List.mem_cons_self)) hanswer
    obtain ⟨e, he, hsame⟩ := hfound values hvalues
    obtain ⟨hcoherent, hkeeps⟩ := keeps_reached h hanswer
    have hend :=
      hkeeps.extended.enum?_eq_some hcoherent.indexed (coherent_reached h).indexed he
    exact ⟨e, hend, (coherent_reached h).holds hend hsame⟩
  fieldEnum_shared := by
    rintro before middle after owner owner' field values name rfl hr
    have hanswer := Names.exists_answer_of_perform_ok hr
    have hmiddle : ∀ r ∈ before ++ .fieldEnum owner field values :: middle, r.Proper :=
      fun r hr => h r (List.mem_append_left _ hr)
    have hbefore := coherent_reached fun r hr => hmiddle r (List.mem_append_left _ hr)
    have hvalues := hmiddle _ (List.mem_append_right _ List.mem_cons_self) values rfl
    obtain ⟨hcoherent, -, i, hkey, hname, -⟩ :=
      Names.coherent_of_fieldEnum hbefore hvalues hanswer
    obtain ⟨-, hkeeps⟩ := keeps_reached hmiddle hanswer
    have hsame := hkeeps.extended.enumAt_eq (hcoherent.indexed.fieldEnums_lt _ _ hkey)
    have hlater := hkeeps.fieldEnums _ _ hkey
    rw [Names.perform_of_answer_ok (Names.answer_fieldEnum_of_lookup owner' hlater), hsame, hname]
  function_refused := by
    rintro before r after name origin e rfl hclaim
    cases r with
    | function name' origin' =>
        cases hclaim
        have hlookup := Names.lookup_functions_afterAll {} before name
        rw [← reached_eq, List.nil_append] at hlookup
        rw [Names.perform_eq_error_iff, Names.answer_function_eq_error_iff, hlookup]
    | _ => cases hclaim
  type_refused := by
    rintro before r after name origin e rfl hclaim
    have hlookup := Names.lookup_types_afterAll {} before name
    rw [← reached_eq, List.nil_append] at hlookup
    rw [Names.perform_eq_error_iff, Names.answer_eq_error_iff_of_typeClaim? hclaim, hlookup]
  refused_unchanged := by
    rintro before r after e rfl hr
    rw [Names.perform_of_answer_error (Names.perform_eq_error_iff.1 hr)]

/-- Two vehicles with the same paints, and an enumeration that may not have the name of one. -/
def vehicleRequests : List NameRequest := [
  .fieldEnum "Car" "paint" [.string "red", .string "RED", .number (.int 1)],
  .type "Bike" "component schema 'Bike'",
  .fieldEnum "Bike" "paint" [.string "red", .string "RED", .number (.int 1)],
  .namedEnum "Bike" [.string "steel"] "component schema 'bike'"]

theorem soundRun_vehicleRequests :
    (∀ r ∈ vehicleRequests, r.Proper) ∧ SoundRun vehicleRequests := by
  have hproper : ∀ r ∈ vehicleRequests, r.Proper := by
    simp [vehicleRequests, NameRequest.Proper, NameRequest.values?, Json.ProperItems, Json.Proper]
  exact ⟨hproper, soundRun vehicleRequests hproper⟩

example : (reached vehicleRequests).enums.map (fun e => (e.name, e.members.map Member.identifier)) =
    [("CarPaintEnum", ["RED", "RED_2", "VALUE_1"])] := by decide

end TypedClient.Plan
