import TypedClient.Proofs.Plan.Draft

/-!
# Names of functions

A function name is claimed for the method and path of its operation, so two operations share a name
in a plan only if they share both (`nodup_functionNames_iff`). Operations that differ in method or
path are told apart: the second of them to claim a name ends the run. The keys of a path item are
matched without regard to case, so one path can hold the same method twice, and then both operations
get a function of the same name.
-/

namespace TypedClient.Plan

open Client (Settings)
open OpenApi (Document Method Operation)
open Claiming

/-! ## Endpoints -/

theorem ofWord?_token (m : Method) : Method.ofWord? m.token = some m := by
  cases m <;> decide

theorem token_inj {m m' : Method} (h : m.token = m'.token) : m = m' := by
  have hword := ofWord?_token m
  rw [h, ofWord?_token m'] at hword
  exact (Option.some.inj hword).symm

theorem space_not_mem_token (m : Method) : ' ' ∉ m.token.toList := by
  cases m <;> decide

/-- An endpoint tells method and path. -/
theorem endpoint_eq_iff {o o' : Operation} :
    o.endpoint = o'.endpoint ↔ o.method = o'.method ∧ o.path = o'.path := by
  constructor
  · intro h
    have hlist := congrArg String.toList h
    simp only [Operation.endpoint, String.toList_append, List.append_assoc] at hlist
    obtain ⟨htoken, hpath⟩ :=
      append_cons_inj (space_not_mem_token o.method) (space_not_mem_token o'.method) hlist
    exact ⟨token_inj (String.toList_inj.1 htoken), String.toList_inj.1 hpath⟩
  · rintro ⟨hmethod, hpath⟩
    rw [Operation.endpoint, hmethod, hpath, Operation.endpoint]

/-! ## Distinct names -/

section Distinct

variable {d : Document} {s : Settings}

/-- The calls of a plan are named by the operations. -/
theorem map_functionName_of_drafted {base : List Model} {made : List (Call × Option Model)}
    {n : Names} (h : Drafted d s base made n) (split : List String) :
    (made.map fun c => redirectCall split c.1).map Call.functionName =
      (allowed s.filter d.operations).map functionNameOf := by
  rw [List.map_map]
  exact map_eq_map_of_forall₂ h.called fun _ _ hr => hr.functionName_eq

/-- Operations of one function name that both give calls have one endpoint. -/
theorem Drafted.endpoint_eq {base : List Model} {made : List (Call × Option Model)} {n : Names}
    (h : Drafted d s base made n) {o o' : Operation} (ho : o ∈ allowed s.filter d.operations)
    (ho' : o' ∈ allowed s.filter d.operations) (hname : functionNameOf o = functionNameOf o') :
    o.endpoint = o'.endpoint := by
  obtain ⟨r, -, hr⟩ := exists_of_mem_left h.called ho
  obtain ⟨r', -, hr'⟩ := exists_of_mem_left h.called ho'
  have hclaimed := hr.claimed
  rw [hname, hr'.claimed] at hclaimed
  exact (Option.some.inj hclaimed).symm

/-- The function names of a plan are distinct exactly if no two operations of one name have the same
method and path. -/
theorem nodup_functionNames_iff {p : TypedClient.Plan} (h : build d s = .ok p) :
    (p.calls.map Call.functionName).Nodup ↔
      ((allowed s.filter d.operations).map fun o =>
        (functionNameOf o, o.method, o.path)).Nodup := by
  obtain ⟨base, made, n, hdrafted, -, hcalls, -, -⟩ := build_eq_ok h
  rw [hcalls, map_functionName_of_drafted hdrafted]
  apply nodup_map_iff_nodup_map
  intro o ho o' ho'
  rw [Prod.mk.injEq, Prod.mk.injEq, ← endpoint_eq_iff]
  exact ⟨fun hname => ⟨hname, hdrafted.endpoint_eq ho ho' hname⟩, fun heq => heq.1⟩

/-! ## Collisions -/

/-- The run of the stages before the split, for some operations. -/
def collect (d : Document) (s : Settings) (operations : List Operation) :
    Claiming (List (Call × Option Model)) := do
  let _ ← Components.models d.schemas
  operations.mapM (Components.call d.schemas s.mode)

/-- A call is refused if its function name stands for something else. -/
theorem call_of_lookup_ne {components : Components} {mode : Client.Mode} {o : Operation}
    {n : Names} {first : String} (hfirst : n.functions.lookup (functionNameOf o) = some first)
    (hne : first ≠ o.endpoint) :
    components.call mode o n =
      .error (.functionCollision (functionNameOf o) first o.endpoint) :=
  bind_of_error (claimFunction_of_lookup_ne hfirst hne) _

/-- The second operation to claim a function name ends the run if nothing else did before. -/
theorem build_eq_functionCollision {before after : List Operation} {o first : Operation}
    (hallowed : allowed s.filter d.operations = before ++ o :: after) (hfirst : first ∈ before)
    (hname : functionNameOf first = functionNameOf o) (hne : first.endpoint ≠ o.endpoint)
    (hcheck : s.check = .ok ()) {made : List (Call × Option Model)} {n : Names}
    (hcollect : collect d s before {} = .ok (made, n)) :
    build d s =
      .error (.functionCollision (functionNameOf o) first.endpoint o.endpoint) := by
  obtain ⟨base, n₁, hbase, hmade⟩ := bind_eq_ok hcollect
  obtain ⟨hgrows, -⟩ := gives_models {} base n₁ (Names.sound_empty d.schemas) hbase
  obtain ⟨-, hcalled⟩ := gives_mapM (fun o _ => gives_call s.mode o)
    (fun _ _ _ _ hnext hr => hr.mono hnext) n₁ made n hgrows.sound hmade
  obtain ⟨r, -, hr⟩ := exists_of_mem_left hcalled hfirst
  have hlookup := hr.claimed
  rw [hname] at hlookup
  have hcalls : Components.calls d.schemas s.mode s.filter d.operations n₁ =
      .error (.functionCollision (functionNameOf o) first.endpoint o.endpoint) := by
    unfold Components.calls
    rw [hallowed]
    exact mapM_append_cons_of_error hmade (call_of_lookup_ne hlookup hne) after
  have hdraft : draft d s {} =
      .error (.functionCollision (functionNameOf o) first.endpoint o.endpoint) := by
    unfold draft
    rw [bind_of_ok hbase]
    exact bind_of_error hcalls _
  unfold build
  rw [hcheck]
  have hrun : (draft d s).run {} = draft d s {} := rfl
  simp only [hrun, hdraft]

end Distinct

/-- A plan has distinct function names exactly if no two operations of one name have the same method
and path. Two operations of one name that differ there give no plan, and the error names the
collision once the run has come to the second of them. -/
theorem functionNames_spec (d : Document) (s : Settings) :
    (∀ p, build d s = .ok p → ((p.calls.map Call.functionName).Nodup ↔
      ((allowed s.filter d.operations).map fun o =>
        (functionNameOf o, o.method, o.path)).Nodup)) ∧
    ∀ before o after, allowed s.filter d.operations = before ++ o :: after →
      ∀ first ∈ before, functionNameOf first = functionNameOf o →
        ¬(first.method = o.method ∧ first.path = o.path) →
          (∀ p, build d s ≠ .ok p) ∧
          (s.check = .ok () → ∀ r, collect d s before {} = .ok r →
            build d s =
              .error (.functionCollision (functionNameOf o) first.endpoint o.endpoint)) := by
  refine ⟨fun p h => nodup_functionNames_iff h, ?_⟩
  intro before o after hallowed first hfirst hname hne
  rw [← endpoint_eq_iff] at hne
  refine ⟨?_, ?_⟩
  · intro p h
    obtain ⟨base, made, n, hdrafted, -⟩ := build_eq_ok h
    apply hne
    apply hdrafted.endpoint_eq _ _ hname
    · rw [hallowed]
      exact List.mem_append_left _ hfirst
    · rw [hallowed]
      exact List.mem_append_right _ List.mem_cons_self
  · intro hcheck r hcollect
    exact build_eq_functionCollision hallowed hfirst hname hne hcheck hcollect

theorem exists_of_isOk {ε α : Type} {x : Except ε α} (h : x.isOk = true) : ∃ a, x = .ok a := by
  cases x with
  | error e => cases h
  | ok a => exact ⟨a, rfl⟩

/-- An operation that reads what is at a path. -/
def reading (id path : String) : Operation where
  id := some id
  path := path
  method := .get
  tags := []
  summary := none
  description := none
  deprecated := false
  parameters := []
  requestBody := none
  responses := []

/-- A document of operations alone. -/
def operationsAlone (operations : List Operation) : Document where
  version := "3.0.0"
  info := none
  servers := []
  operations := operations
  schemas := []

theorem functionNames_spec_reading :
    (∃ p, build (operationsAlone [reading "x" "/a", reading "y" "/b"]) {} = .ok p ∧
      (p.calls.map Call.functionName).Nodup) ∧
    build (operationsAlone [reading "x" "/a", reading "x" "/b"]) {} =
      .error (.functionCollision "default_get_x" "GET /a" "GET /b") := by
  constructor
  · have hbuilds : builds (operationsAlone [reading "x" "/a", reading "y" "/b"]) {}
        (fun _ => true) = true := by decide +kernel
    obtain ⟨p, hp, -⟩ := exists_of_builds hbuilds
    exact ⟨p, hp, ((functionNames_spec _ {}).1 p hp).2 (by decide +kernel)⟩
  · have hcollect : (collect (operationsAlone [reading "x" "/a", reading "x" "/b"]) {}
        [reading "x" "/a"] {}).isOk = true := by decide +kernel
    obtain ⟨r, hr⟩ := exists_of_isOk hcollect
    have hname : functionNameOf (reading "x" "/a") = "default_get_x" := by decide +kernel
    have hname' : functionNameOf (reading "x" "/b") = "default_get_x" := by decide +kernel
    have hfirst : (reading "x" "/a").endpoint = "GET /a" := by decide +kernel
    have hsecond : (reading "x" "/b").endpoint = "GET /b" := by decide +kernel
    rw [← hname', ← hfirst, ← hsecond]
    exact ((functionNames_spec (operationsAlone [reading "x" "/a", reading "x" "/b"]) {}).2
      [reading "x" "/a"] (reading "x" "/b") [] rfl (reading "x" "/a") List.mem_cons_self
      (hname.trans hname'.symm) (by decide)).2 rfl r hr

/-- A path that spells one method in two ways. -/
def oneMethodTwice : Json := .object [
  ("openapi", .string "3.0.0"),
  ("paths", .object [("/a", .object [
    ("get", .object [("responses", .object [])]),
    ("GET", .object [("responses", .object [])])])]),
  ("components", .object [("schemas", .object [])])]

theorem functionNames_oneMethodTwice :
    ∃ d p, Document.ofJson oneMethodTwice = .ok d ∧ build d {} = .ok p ∧
      p.calls.map Call.functionName = ["default_get_get_a", "default_get_get_a"] ∧
      ¬(p.calls.map Call.functionName).Nodup := by
  have hgenerates : generates oneMethodTwice {} (fun p => p.calls.map Call.functionName ==
      ["default_get_get_a", "default_get_get_a"]) = true := by decide +kernel
  obtain ⟨d, p, hd, hp, hnames⟩ := exists_of_generates hgenerates
  have hnames := eq_of_beq hnames
  refine ⟨d, p, hd, hp, hnames, ?_⟩
  rw [hnames]
  decide

end TypedClient.Plan
