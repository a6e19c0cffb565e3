import TypedClient.Proofs.Lexical.SnakeCase
import TypedClient.Proofs.Plan.FunctionNames
import TypedClient.Proofs.Plan.Operations
import TypedClient.Proofs.Plan.Paths

/-!
# Parameters in paths

The parameters of a call are the declared ones and, behind them, one for each other name in the path
(`exists_allPathParameters`). They replace their names one after another, and an argument may be the
name of a later parameter; since an argument name is its own argument name, every name still ends as
its own argument (`replacedBy_of_mem`), as if all had been replaced at once
(`urlTemplate_spec`). Arguments are not made distinct, so they are so only if the names do not meet
(`nodup_pathParameters_iff`).
-/

namespace TypedClient.Plan

open Client (Mode Settings)
open Naming (HasLowercase parameterName)
open OpenApi (Document Operation Parameter)
open Claiming

variable {declared parameters : List PathParameter} {wireName name path : String}

/-! ## Names that are not declared -/

/-- The parameter for a name in a path that is not declared. -/
def undeclared (wireName : String) : PathParameter := ⟨parameterName wireName, wireName, .str⟩

/-- The names between the braces of a path, from the left. -/
def pathNames (path : String) : List String := (bracedNames none path.toList).map String.ofList

/-- The parameters with one more for the name, if none has it. -/
def addName (parameters : List PathParameter) (name : String) : List PathParameter :=
  if parameters.any fun p => p.wireName == name then parameters
  else parameters ++ [undeclared name]

theorem mem_pathNames_iff : name ∈ pathNames path ↔ StandsIn name.toList path.toList := by
  rw [← mem_bracedNames_iff, pathNames, List.mem_map]
  constructor
  · rintro ⟨cs, hcs, rfl⟩
    rwa [String.toList_ofList]
  · intro h
    exact ⟨name.toList, h, String.ofList_toList⟩

theorem allPathParameters_eq (declared : List PathParameter) (path : String) :
    allPathParameters declared path = (pathNames path).foldl addName declared := by
  rw [pathNames, List.foldl_map]
  rfl

theorem map_wireName_undeclared (names : List String) :
    (names.map undeclared).map PathParameter.wireName = names := by
  have hself : PathParameter.wireName ∘ undeclared = id := rfl
  rw [List.map_map, hself, List.map_id]

theorem addName_of_mem (h : name ∈ parameters.map PathParameter.wireName) :
    addName parameters name = parameters := by
  obtain ⟨p, hp, rfl⟩ := List.mem_map.1 h
  exact if_pos (List.any_eq_true.2 ⟨p, hp, beq_self_eq_true p.wireName⟩)

theorem addName_of_not_mem (h : name ∉ parameters.map PathParameter.wireName) :
    addName parameters name = parameters ++ [undeclared name] := by
  refine if_neg fun hany => h ?_
  obtain ⟨p, hp, heq⟩ := List.any_eq_true.1 hany
  exact List.mem_map.2 ⟨p, hp, eq_of_beq heq⟩

/-- Names are added once, and only if they are not there. -/
theorem exists_foldl_addName (parameters : List PathParameter) (names : List String) :
    ∃ added : List String,
      names.foldl addName parameters = parameters ++ added.map undeclared ∧ added.Nodup ∧
      ∀ name, name ∈ added ↔ name ∈ names ∧ name ∉ parameters.map PathParameter.wireName := by
  induction names generalizing parameters with
  | nil => exact ⟨[], by simp, List.nodup_nil, by simp⟩
  | cons first names ih =>
      by_cases hfirst : first ∈ parameters.map PathParameter.wireName
      · obtain ⟨added, heq, hnodup, hmem⟩ := ih parameters
        refine ⟨added, ?_, hnodup, ?_⟩
        · rw [List.foldl_cons, addName_of_mem hfirst, heq]
        · intro name
          rw [hmem, List.mem_cons]
          constructor
          · exact fun h => ⟨Or.inr h.1, h.2⟩
          · rintro ⟨rfl | hname, hnot⟩
            · exact absurd hfirst hnot
            · exact ⟨hname, hnot⟩
      · obtain ⟨added, heq, hnodup, hmem⟩ := ih (parameters ++ [undeclared first])
        have hwire : (parameters ++ [undeclared first]).map PathParameter.wireName =
            parameters.map PathParameter.wireName ++ [first] := List.map_append
        refine ⟨first :: added, ?_, List.nodup_cons.2 ⟨?_, hnodup⟩, ?_⟩
        · rw [List.foldl_cons, addName_of_not_mem hfirst, heq, List.append_assoc]
          rfl
        · rw [hmem, hwire]
          simp
        · intro name
          rw [List.mem_cons, hmem, hwire, List.mem_append, List.mem_singleton, List.mem_cons]
          by_cases hname : name = first
          · simp [hname, hfirst]
          · simp [hname]

/-- Behind the declared parameters, every other name in the path has one. -/
theorem exists_allPathParameters (declared : List PathParameter) (path : String) :
    ∃ added : List String,
      allPathParameters declared path = declared ++ added.map undeclared ∧ added.Nodup ∧
      ∀ name, name ∈ added ↔
        StandsIn name.toList path.toList ∧ name ∉ declared.map PathParameter.wireName := by
  obtain ⟨added, heq, hnodup, hmem⟩ := exists_foldl_addName declared (pathNames path)
  refine ⟨added, (allPathParameters_eq declared path).trans heq, hnodup, fun name => ?_⟩
  rw [hmem, mem_pathNames_iff]

/-! ## Declared and other names -/

/-- The parameter has the argument that belongs to its name. -/
def PathParameter.HasArgument (p : PathParameter) : Prop := p.name = parameterName p.wireName

/-- The name is declared for the path of the operation or stands in it. -/
def IsWireName (o : Operation) (name : String) : Prop :=
  name ∈ (pathParametersOf o).map Parameter.name ∨ StandsIn name.toList o.path.toList

theorem hasArgument_of_pathParameter {components : Components} {p : Parameter} {a : PathParameter}
    (h : components.pathParameter p = .ok a) : a.HasArgument ∧ a.wireName = p.name := by
  unfold Components.pathParameter at h
  split at h
  · obtain ⟨type, -, h⟩ := ok_of_bind h
    rw [← Except.ok.inj h]
    exact ⟨by rw [PathParameter.HasArgument], rfl⟩
  · rw [← Except.ok.inj h]
    exact ⟨by rw [PathParameter.HasArgument], rfl⟩

theorem hasArgument_undeclared (wireName : String) : (undeclared wireName).HasArgument := by
  rw [PathParameter.HasArgument, undeclared]

section Declared

variable {components : Components} {o : Operation}
  (h : List.Forall₂ (fun p a => components.pathParameter p = .ok a) (pathParametersOf o) declared)
include h

theorem map_wireName_declared :
    declared.map PathParameter.wireName = (pathParametersOf o).map Parameter.name :=
  map_eq_map_of_forall₂ h fun _ _ ha => (hasArgument_of_pathParameter ha).2

theorem hasArgument_of_mem_allPathParameters :
    ∀ p ∈ allPathParameters declared o.path, p.HasArgument := by
  obtain ⟨added, heq, -, -⟩ := exists_allPathParameters declared o.path
  intro p hp
  rw [heq, List.mem_append] at hp
  rcases hp with hp | hp
  · obtain ⟨_, -, ha⟩ := exists_of_mem_right h hp
    exact (hasArgument_of_pathParameter ha).1
  · obtain ⟨name, -, rfl⟩ := List.mem_map.1 hp
    exact hasArgument_undeclared name

theorem map_name_allPathParameters : (allPathParameters declared o.path).map PathParameter.name =
    ((allPathParameters declared o.path).map PathParameter.wireName).map parameterName := by
  rw [List.map_map]
  refine List.map_congr_left fun p hp => ?_
  rw [Function.comp_apply, hasArgument_of_mem_allPathParameters h p hp]

/-- The names of all parameters are the declared ones and those in the path. -/
theorem mem_wireNames_iff :
    name ∈ (allPathParameters declared o.path).map PathParameter.wireName ↔ IsWireName o name := by
  obtain ⟨added, heq, -, hadded⟩ := exists_allPathParameters declared o.path
  rw [heq, List.map_append, map_wireName_undeclared, List.mem_append, hadded,
    map_wireName_declared h, IsWireName]
  by_cases hname : name ∈ (pathParametersOf o).map Parameter.name
  · simp [hname]
  · simp [hname]

/-- Only a name that is declared twice has two parameters. -/
theorem nodup_wireNames_iff :
    ((allPathParameters declared o.path).map PathParameter.wireName).Nodup ↔
      ((pathParametersOf o).map Parameter.name).Nodup := by
  obtain ⟨added, heq, hnodup, hadded⟩ := exists_allPathParameters declared o.path
  rw [heq, List.map_append, map_wireName_undeclared, ← map_wireName_declared h]
  constructor
  · exact fun hall => (List.nodup_append.1 hall).1
  · intro hdeclared
    refine List.nodup_append.2 ⟨hdeclared, hnodup, ?_⟩
    rintro name hname _ hname' rfl
    exact ((hadded name).1 hname').2 hname

/-- A name that is not declared has a single parameter. -/
theorem filter_allPathParameters (hstands : StandsIn name.toList o.path.toList)
    (hundeclared : name ∉ (pathParametersOf o).map Parameter.name) :
    ((allPathParameters declared o.path).filter fun p => p.wireName == name) =
      [undeclared name] := by
  obtain ⟨added, heq, hnodup, hadded⟩ := exists_allPathParameters declared o.path
  rw [← map_wireName_declared h] at hundeclared
  have hnone : (declared.filter fun p => p.wireName == name) = [] := by
    rw [List.filter_eq_nil_iff]
    intro p hp hwire
    apply hundeclared
    rw [← eq_of_beq hwire]
    exact List.mem_map_of_mem hp
  have hone : (added.filter fun wireName => wireName == name) = [name] := by
    rw [List.filter_beq, List.count_eq_one_of_mem hnodup ((hadded name).2 ⟨hstands, hundeclared⟩)]
    rfl
  have hself : (fun p : PathParameter => p.wireName == name) ∘ undeclared =
      fun wireName => wireName == name := rfl
  rw [heq, List.filter_append, hnone, List.nil_append, List.filter_map, hself, hone,
    List.map_singleton]

end Declared

/-! ## Names become their arguments -/

theorem isPathName_parameterName (wireName : String) :
    IsPathName (parameterName wireName).toList := by
  have hword : Lexical.IsWord (parameterName wireName).toList :=
    Lexical.isWord_of_isValidIdentifier (Lexical.isValidIdentifier_sanitizeParameter _)
  refine ⟨fun hnil => ?_, fun hopen => ?_, fun hclose => ?_⟩
  · rw [hnil] at hword
    exact Lexical.not_isWord_nil hword
  · exact absurd (hword.chars _ hopen) (by decide)
  · exact absurd (hword.chars _ hclose) (by decide)

/-- An argument stays what it is. -/
theorem replacedBy_argument (hargument : ∀ p ∈ parameters, p.HasArgument)
    (hlower : HasLowercase wireName.toList) :
    replacedBy parameters (parameterName wireName).toList = (parameterName wireName).toList := by
  induction parameters with
  | nil => rfl
  | cons p parameters ih =>
      have hstep : (if (parameterName wireName).toList = p.wireName.toList then p.name.toList
          else (parameterName wireName).toList) = (parameterName wireName).toList := by
        split
        · next heq =>
            have hwire := String.toList_inj.1 heq
            rw [hargument p List.mem_cons_self, ← hwire,
              Naming.parameterName_parameterName hlower]
        · rfl
      rw [replacedBy, List.foldl_cons, hstep]
      exact ih fun q hq => hargument q (List.mem_cons_of_mem p hq)

/-- The name of a parameter becomes its argument. -/
theorem replacedBy_of_mem (hargument : ∀ p ∈ parameters, p.HasArgument)
    (hlower : HasLowercase wireName.toList)
    (hmem : wireName ∈ parameters.map PathParameter.wireName) :
    replacedBy parameters wireName.toList = (parameterName wireName).toList := by
  induction parameters with
  | nil => cases hmem
  | cons p parameters ih =>
      have htail := fun q hq => hargument q (List.mem_cons_of_mem p hq)
      rw [replacedBy, List.foldl_cons]
      by_cases heq : wireName = p.wireName
      · rw [if_pos (by rw [heq]), hargument p List.mem_cons_self, ← heq]
        exact replacedBy_argument htail hlower
      · rw [if_neg fun hlist => heq (String.toList_inj.1 hlist)]
        exact ih htail ((List.mem_cons.1 hmem).resolve_left heq)

/-- What a name between braces becomes, for itself. -/
def argumentOf (name : List Char) : List Char := (parameterName (String.ofList name)).toList

/-- The address of a call is the path with every name between braces replaced by its argument at
once and nothing else changed. Each of these names has a parameter, and one that is not declared has
a single one, which is a text. -/
theorem urlTemplate_spec {components : Components} {mode : Mode} {o : Operation} {n next : Names}
    {c : Call} {query : Option Model} (h : components.call mode o n = .ok ((c, query), next))
    (hdeclared : ∀ p ∈ pathParametersOf o, IsPathName p.name.toList ∧ HasLowercase p.name.toList)
    (hpath : ∀ name, StandsIn name o.path.toList → HasLowercase name) :
    (∀ text : String,
      Rewritten argumentOf o.path.toList text.toList ↔ text = c.urlTemplate) ∧
    ∀ name : String, StandsIn name.toList o.path.toList →
      (∃ p ∈ c.pathParameters, p.wireName = name ∧ p.name = parameterName name) ∧
      (name ∉ (pathParametersOf o).map Parameter.name →
        (c.pathParameters.filter fun p => p.wireName == name) = [undeclared name]) := by
  obtain ⟨declared, body, response, hdeclares, -, -, heq⟩ :=
    exists_callOf_of_yields (yields_of_ok h)
  obtain rfl : c = callOf mode o declared body response := heq
  have hargument := hasArgument_of_mem_allPathParameters hdeclares
  have hmem : ∀ name : String, StandsIn name.toList o.path.toList →
      name ∈ (allPathParameters declared o.path).map PathParameter.wireName :=
    fun name hname => (mem_wireNames_iff hdeclares).2 (Or.inr hname)
  constructor
  · have hwires : ∀ p ∈ allPathParameters declared o.path, IsPathName p.wireName.toList := by
      intro p hp
      rcases (mem_wireNames_iff hdeclares).1 (List.mem_map_of_mem hp) with hname | hname
      · obtain ⟨q, hq, hname⟩ := List.mem_map.1 hname
        rw [← hname]
        exact (hdeclared q hq).1
      · exact hname.1
    have harguments : ∀ p ∈ allPathParameters declared o.path, IsPathName p.name.toList := by
      intro p hp
      rw [hargument p hp]
      exact isPathName_parameterName p.wireName
    have htemplate : Rewritten argumentOf o.path.toList
        (callOf mode o declared body response).urlTemplate.toList := by
      refine (rewritten_templateOf o.path hwires harguments).congr fun name hname => ?_
      have hname' : StandsIn (String.ofList name).toList o.path.toList := by
        rwa [String.toList_ofList]
      have hbecomes := replacedBy_of_mem hargument (hpath _ hname') (hmem _ hname')
      rwa [String.toList_ofList] at hbecomes
    intro text
    constructor
    · exact fun htext => String.toList_inj.1 (htext.unique htemplate)
    · rintro rfl
      exact htemplate
  · intro name hname
    constructor
    · obtain ⟨p, hp, rfl⟩ := List.mem_map.1 (hmem name hname)
      exact ⟨p, hp, rfl, hargument p hp⟩
    · exact filter_allPathParameters hdeclares hname

/-- An operation that declares one of the three names in its path; its argument is one of the
others. -/
def visit : Operation :=
  { reading "visit" "/{url}/{petId}/{url_param}/{petId}" with
    parameters := [{ name := "url", location := .path }] }

theorem urlTemplate_spec_visit : ∃ c query next,
    Components.call [] .blocking visit {} = .ok ((c, query), next) ∧
    c.urlTemplate = "/{url_param}/{pet_id}/{url_param}/{pet_id}" ∧
    (∀ p ∈ pathParametersOf visit, IsPathName p.name.toList ∧ HasLowercase p.name.toList) ∧
    (∀ name, StandsIn name visit.path.toList → HasLowercase name) ∧
    Rewritten argumentOf visit.path.toList c.urlTemplate.toList ∧
    (c.pathParameters.filter fun p => p.wireName == "petId") = [undeclared "petId"] := by
  have hcall : ((Components.call [] .blocking visit {}).toOption.map fun r => r.1.1.urlTemplate) =
      some "/{url_param}/{pet_id}/{url_param}/{pet_id}" := by decide +kernel
  obtain ⟨⟨⟨c, query⟩, next⟩, hok, htemplate⟩ := Option.map_eq_some_iff.1 hcall
  have hok : Components.call [] .blocking visit {} = .ok ((c, query), next) := by
    generalize Components.call [] .blocking visit {} = outcome at hok
    cases outcome with
    | error e => cases hok
    | ok r => exact congrArg Except.ok (Option.some.inj hok)
  have hdeclared : ∀ p ∈ pathParametersOf visit,
      IsPathName p.name.toList ∧ HasLowercase p.name.toList := by decide +kernel
  have hpath : ∀ name, StandsIn name visit.path.toList → HasLowercase name := by
    have hall : ∀ name ∈ bracedNames none visit.path.toList, HasLowercase name := by
      decide +kernel
    intro name hname
    exact hall name ((mem_bracedNames_iff _ name).2 hname)
  have hstands : StandsIn "petId".toList visit.path.toList := by decide +kernel
  obtain ⟨hrewritten, hparameters⟩ := urlTemplate_spec hok hdeclared hpath
  exact ⟨c, query, next, hok, htemplate, hdeclared, hpath, (hrewritten c.urlTemplate).2 rfl,
    (hparameters "petId" hstands).2 (by decide +kernel)⟩

/-! ## Distinct arguments -/

/-- The arguments for the path of an operation are distinct exactly if no name is declared twice and
no two names have one argument. -/
theorem nodup_pathParameters_iff (d : Document) (s : Settings) (p : TypedClient.Plan)
    (h : build d s = .ok p) :
    List.Forall₂ (fun (o : Operation) (c : Call) =>
      (c.pathParameters.map PathParameter.name).Nodup ↔
        ((pathParametersOf o).map Parameter.name).Nodup ∧
        ∀ name other, IsWireName o name → IsWireName o other →
          parameterName name = parameterName other → name = other)
      (allowed s.filter d.operations) p.calls := by
  obtain ⟨base, made, n, hdrafted, -, hcalls, -, -⟩ := build_eq_ok h
  rw [hcalls, List.forall₂_map_right_iff]
  refine (forall₂_of_yields_mapM hdrafted.callsYielded).imp fun o r hr => ?_
  obtain ⟨declared, body, response, hdeclares, -, -, heq⟩ := exists_callOf_of_yields hr
  have hnames : (redirectCall (splitNames (allModels base made)) r.1).pathParameters.map
      PathParameter.name =
        ((allPathParameters declared o.path).map PathParameter.wireName).map parameterName := by
    rw [heq]
    exact map_name_allPathParameters hdeclares
  rw [hnames, ← nodup_wireNames_iff hdeclares]
  constructor
  · intro hdistinct
    refine ⟨hdistinct.of_map, fun name other hname hother => ?_⟩
    exact (List.nodup_map_iff_inj_on hdistinct.of_map).1 hdistinct
      name ((mem_wireNames_iff hdeclares).2 hname) other ((mem_wireNames_iff hdeclares).2 hother)
  · rintro ⟨hwires, hinj⟩
    rw [List.nodup_map_iff_inj_on hwires]
    intro name hname other hother
    exact hinj name other ((mem_wireNames_iff hdeclares).1 hname)
      ((mem_wireNames_iff hdeclares).1 hother)

theorem nodup_pathParameters_iff_reading : ∃ p,
    build (operationsAlone [reading "x" "/{shopId}/{pet_id}"]) {} = .ok p ∧
    (p.calls.map fun c => c.pathParameters.map PathParameter.name) = [["shop_id", "pet_id"]] ∧
    List.Forall₂ (fun (o : Operation) (c : Call) =>
      (c.pathParameters.map PathParameter.name).Nodup ↔
        ((pathParametersOf o).map Parameter.name).Nodup ∧
        ∀ name other, IsWireName o name → IsWireName o other →
          parameterName name = parameterName other → name = other)
      (allowed {} [reading "x" "/{shopId}/{pet_id}"]) p.calls := by
  have hbuilds : builds (operationsAlone [reading "x" "/{shopId}/{pet_id}"]) {} (fun p =>
      (p.calls.map fun c => c.pathParameters.map PathParameter.name) ==
        [["shop_id", "pet_id"]]) = true := by decide +kernel
  obtain ⟨p, hp, hnames⟩ := exists_of_builds hbuilds
  exact ⟨p, hp, eq_of_beq hnames, nodup_pathParameters_iff _ {} p hp⟩

/-- A path with two names that differ in how they part their words. -/
def oneArgumentTwice : Json := .object [
  ("openapi", .string "3.0.0"),
  ("paths", .object [("/a/{petId}/{pet_id}", .object [
    ("get", .object [("operationId", .string "x"), ("responses", .object [])])])]),
  ("components", .object [("schemas", .object [])])]

theorem pathParameters_oneArgumentTwice :
    ∃ d p, Document.ofJson oneArgumentTwice = .ok d ∧ build d {} = .ok p ∧
      p.calls.map Call.urlTemplate = ["/a/{pet_id}/{pet_id}"] ∧
      (p.calls.map fun c => c.pathParameters.map PathParameter.name) = [["pet_id", "pet_id"]] ∧
      ∃ c ∈ p.calls, ¬(c.pathParameters.map PathParameter.name).Nodup := by
  have hgenerates : generates oneArgumentTwice {} (fun p =>
      p.calls.map Call.urlTemplate == ["/a/{pet_id}/{pet_id}"] &&
      (p.calls.map fun c => c.pathParameters.map PathParameter.name) ==
        [["pet_id", "pet_id"]]) = true := by decide +kernel
  obtain ⟨d, p, hd, hp, htest⟩ := exists_of_generates hgenerates
  obtain ⟨htemplates, hnames⟩ := Bool.and_eq_true_iff.1 htest
  have hnames := eq_of_beq hnames
  obtain ⟨c, hc, hcnames⟩ := List.mem_map.1 (hnames ▸ List.mem_singleton_self _)
  refine ⟨d, p, hd, hp, eq_of_beq htemplates, hnames, c, hc, ?_⟩
  rw [hcnames]
  decide

end TypedClient.Plan
