import TypedClient.Proofs.Plan.Draft
import TypedClient.Proofs.Plan.Fields

/-!
# The call of an operation

Names that have been given before decide whether an operation gets a call, but not which one. A call
is put together from the operation, its path parameters and its bodies (`callOf`), and these are
read off the components (`exists_callOf_of_yields`), so any two runs give the same call
(`call_unique`). In a plan that is built, only the models that its bodies refer to are redirected
(`exists_callOf_of_build`).
-/

namespace TypedClient.Plan

open Client (Mode Settings)
open OpenApi (Document Operation Parameter)
open Claiming

/-- The parameters of an operation that stand in its path. -/
def pathParametersOf (o : Operation) : List Parameter :=
  o.parameters.filter fun p => p.location == .path

/-- The call of an operation with the given parameters in its path and the given bodies. -/
def callOf (mode : Mode) (o : Operation) (declared : List PathParameter)
    (body response : Option TypeRef) : Call where
  operationId := operationId o
  tag := o.tag
  functionName := functionNameOf o
  method := o.method
  urlTemplate := templateOf (allPathParameters declared o.path) o.path
  pathParameters := allPathParameters declared o.path
  queryModel := if queryParametersOf o = [] then none else some (containerName o)
  body := body
  response := response
  shape := .select (!(allPathParameters declared o.path).isEmpty) !(queryParametersOf o).isEmpty
  mode := mode
  summary := summary? o
  deprecated := o.deprecated

section Calls

variable {components : Components}

/-- The path parameters that the declared parameters yield are those of the operation, in order. -/
theorem forall₂_pathParameters {queryName : String} {parameters : List Parameter}
    {declared : List (Option Components.Argument)}
    (h : List.Forall₂ (fun p a => Yields (components.argument? queryName p) a) parameters
      declared) :
    List.Forall₂ (fun p a => components.pathParameter p = .ok a)
      (parameters.filter fun p => p.location == .path)
      ((declared.filterMap fun a => a).filterMap Components.Argument.path?) := by
  induction h with
  | nil => exact List.Forall₂.nil
  | @cons p a parameters declared ha _ ih =>
      unfold Components.argument? at ha
      cases hlocation : p.location with
      | path =>
          rw [hlocation] at ha
          obtain ⟨parameter, hparameter, ha⟩ := exists_yields_of_bind ha
          rw [← eq_of_yields_pure ha, List.filter_cons_of_pos (by simp [hlocation])]
          exact List.Forall₂.cons (eq_ok_of_yields_lift hparameter) ih
      | query =>
          rw [hlocation] at ha
          obtain ⟨f, -, ha⟩ := exists_yields_of_bind ha
          rw [← eq_of_yields_pure ha, List.filter_cons_of_neg (by simp [hlocation])]
          exact ih
      | header =>
          rw [hlocation] at ha
          rw [← eq_of_yields_pure ha, List.filter_cons_of_neg (by simp [hlocation])]
          exact ih
      | cookie =>
          rw [hlocation] at ha
          rw [← eq_of_yields_pure ha, List.filter_cons_of_neg (by simp [hlocation])]
          exact ih

/-- There is a container exactly if there are fields for it. -/
theorem map_name_of_yields_queryModel? {name id : String} {fields : List Field}
    {query : Option Model} (h : Yields (queryModel? name id fields) query) :
    query.map Model.name = if fields = [] then none else some name := by
  unfold queryModel? at h
  split at h
  · rw [← eq_of_yields_pure h]
    rfl
  · next hne =>
      obtain ⟨-, -, h⟩ := exists_yields_of_bind h
      rw [← eq_of_yields_pure h, if_neg hne]
      rfl

/-- A call is made from the path parameters that the operation declares and from its bodies. -/
theorem exists_callOf_of_yields {mode : Mode} {o : Operation} {r : Call × Option Model}
    (h : Yields (components.call mode o) r) : ∃ declared body response,
      List.Forall₂ (fun p a => components.pathParameter p = .ok a) (pathParametersOf o) declared ∧
      components.requestType o = .ok body ∧ components.responseType o = .ok response ∧
      r.1 = callOf mode o declared body response := by
  obtain ⟨-, -, h⟩ := exists_yields_of_bind h
  obtain ⟨declared, hdeclared, h⟩ := exists_yields_of_bind h
  obtain ⟨query, hquery, h⟩ := exists_yields_of_bind h
  obtain ⟨body, hbody, h⟩ := exists_yields_of_bind h
  obtain ⟨response, hresponse, h⟩ := exists_yields_of_bind h
  have hall := forall₂_of_yields_mapM hdeclared
  have hfields := forall₂_queryFields hall
  have hnil : (declared.filterMap fun a => a).filterMap Components.Argument.query? = [] ↔
      queryParametersOf o = [] := by
    rw [← List.length_eq_zero_iff, ← hfields.length_eq, List.length_eq_zero_iff, queryParametersOf]
  have hname : query.map Model.name =
      if queryParametersOf o = [] then none else some (containerName o) := by
    rw [map_name_of_yields_queryModel? hquery]
    exact if_congr hnil rfl rfl
  have hsome : query.isSome = !(queryParametersOf o).isEmpty := by
    rw [← Option.isSome_map (f := Model.name), hname]
    cases queryParametersOf o <;> rfl
  refine ⟨_, body, response, forall₂_pathParameters hall, eq_ok_of_yields_lift hbody,
    eq_ok_of_yields_lift hresponse, ?_⟩
  rw [← eq_of_yields_pure h, callOf, ← hname, ← hsome]
  rfl

theorem rightUnique_ok {α : Type} {f : α → Except GenerationError PathParameter} :
    Relator.RightUnique fun (x : α) y => f x = .ok y := by
  intro x y z hy hz
  rw [hy] at hz
  exact Except.ok.inj hz

/-- The call of an operation does not depend on the names that have been given. -/
theorem call_unique {mode : Mode} {o : Operation} {r r' : Call × Option Model}
    (h : Yields (components.call mode o) r) (h' : Yields (components.call mode o) r') :
    r.1 = r'.1 := by
  obtain ⟨declared, body, response, hdeclared, hbody, hresponse, heq⟩ := exists_callOf_of_yields h
  obtain ⟨declared', body', response', hdeclared', hbody', hresponse', heq'⟩ :=
    exists_callOf_of_yields h'
  have hsame := List.right_unique_forall₂' rightUnique_ok hdeclared hdeclared'
  rw [hbody] at hbody'
  rw [hresponse] at hresponse'
  cases hbody'
  cases hresponse'
  rw [heq, heq', hsame]

end Calls

/-- A call of a plan that is built is that of an operation, but for the variants that its bodies
refer to. -/
theorem exists_callOf_of_build {d : Document} {s : Settings} {p : TypedClient.Plan}
    (h : build d s = .ok p) {c : Call} (hc : c ∈ p.calls) :
    ∃ o ∈ allowed s.filter d.operations, ∃ declared body response split,
      List.Forall₂ (fun p a => Components.pathParameter d.schemas p = .ok a) (pathParametersOf o)
        declared ∧
      c = redirectCall split (callOf s.mode o declared body response) := by
  obtain ⟨base, made, n, hdrafted, -, hcalls, -, -⟩ := build_eq_ok h
  rw [hcalls] at hc
  obtain ⟨r, hr, rfl⟩ := List.mem_map.1 hc
  obtain ⟨o, ho, hyields⟩ := exists_of_mem_right (forall₂_of_yields_mapM hdrafted.callsYielded) hr
  obtain ⟨declared, body, response, hdeclared, -, -, heq⟩ := exists_callOf_of_yields hyields
  exact ⟨o, ho, declared, body, response, _, hdeclared, congrArg _ heq⟩

end TypedClient.Plan
