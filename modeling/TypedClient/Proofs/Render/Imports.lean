import TypedClient.Proofs.Plan.Operations
import TypedClient.Proofs.Plan.Closure
import TypedClient.Proofs.Render.Pieces

/-!
# Exact imports

What a module imports is collected from kinds and types, and what it uses stands in the rendered
annotations and expressions. Both follow the same trees, so a symbol is imported exactly if it is a
piece of some part of the module: in the models module whatever the enumerations and models are
(`exactModelImports_collect`), in the client module as long as the shape of every call agrees with
its query (`exactClientImports_collect`). That is so in every plan that is built
(`exactImports_of_build`).
-/

namespace TypedClient.Render

open Client (Mode Settings)
open OpenApi (Document)
open Plan Plan.Claiming
open Template (Invoke Scope renderNodes)

/-! ## Code of the modules -/

/-- What the models module says where it may use symbols: the bases of the enumerations, the
declarations of the fields and the checks. -/
def modelsCode (enums : List Enumeration) (models : List Model) : List Code :=
  enums.map basesCode ++ models.flatMap fun m =>
    m.fields.map (declarationCode m) ++ m.validators.map fun v => checkCode (.ofValidator v)

/-- What the client module says for a call: parameters and result, the argument for the body, the
result itself, and for a query the argument with the functions that it needs. -/
def functionCode (mode : Mode) (c : Call) : List Code :=
  parameterCodes c mode ++ [resultCode c] ++ (c.body.map bodyCode).toList ++
    (c.response.map fun type => returnCode type mode).toList ++
    (queryCode c).toList.flatMap fun code => [code, helperCode]

/-- What the client module says for all calls. -/
def clientCode (mode : Mode) (calls : List Call) : List Code := calls.flatMap (functionCode mode)

/-- The piece stands somewhere in the code. -/
def Uses (codes : List Code) (p : Piece) : Prop := ∃ code ∈ codes, p ∈ code

section Symbols

variable {s : Symbol}

@[simp]
theorem uses_nil {p : Piece} : ¬Uses [] p := by simp [Uses]

@[simp]
theorem uses_cons {code : Code} {codes : List Code} {p : Piece} :
    Uses (code :: codes) p ↔ p ∈ code ∨ Uses codes p := by
  simp [Uses]

@[simp]
theorem uses_append {a b : List Code} {p : Piece} : Uses (a ++ b) p ↔ Uses a p ∨ Uses b p := by
  simp [Uses, or_and_right, exists_or]

@[simp]
theorem uses_map {α : Type} {f : α → Code} {xs : List α} {p : Piece} :
    Uses (xs.map f) p ↔ ∃ x ∈ xs, p ∈ f x := by
  simp [Uses]

@[simp]
theorem uses_flatMap {α : Type} {f : α → List Code} {xs : List α} {p : Piece} :
    Uses (xs.flatMap f) p ↔ ∃ x ∈ xs, Uses (f x) p := by
  simp only [Uses, List.mem_flatMap]
  grind

/-! ## Models module -/

theorem symbol_mem_primitiveCode {p : Primitive} : .symbol s ∈ primitiveCode p ↔
    s = .date ∧ p = .date ∨ s = .datetime ∧ p = .dateTime := by
  cases p <;> simp [primitiveCode]

/-- Whether the annotation of a kind uses a symbol. -/
def kindNeeds : Symbol → Kind → Bool
  | .date, kind => kind.anyPart (Kind.isPrimitive .date)
  | .datetime, kind => kind.anyPart (Kind.isPrimitive .dateTime)
  | .list, kind => kind.anyPart Kind.isTypedList
  | .any, kind => kind.isUnknown
  | .constr, kind => kind.anyPart Kind.isBoundedText
  | .conint, kind => kind.anyPart Kind.isBoundedInteger
  | .confloat, kind => kind.anyPart Kind.isBoundedNumber
  | _, _ => false

theorem kindNeeds_list {items : Kind} (h : items.isUnknown = false) :
    kindNeeds s (.list items) = (decide (s = .list) || kindNeeds s items) := by
  cases s with
  | list =>
      change (!items.isUnknown || _) = _
      rw [h]
      rfl
  | any => exact h.symm
  | _ => rfl

theorem symbol_mem_kindCode {kind : Kind} :
    .symbol s ∈ kindCode kind ↔ kindNeeds s kind = true := by
  induction kind with
  | primitive p =>
      rw [kindCode, symbol_mem_primitiveCode]
      cases s <;> cases p <;> decide
  | list items ih =>
      cases hunknown : items.isUnknown with
      | true =>
          -- Anything in a list is the builtin list.
          cases items <;> cases hunknown
          have hnone : kindNeeds s (.list .unknown) = false := by cases s <;> rfl
          simp [hnone, kindCode, Kind.isUnknown]
      | false =>
          rw [kindNeeds_list hunknown, kindCode, if_neg (by simp [hunknown])]
          simp [ih]
  | model name forward =>
      have hnone : kindNeeds s (.model name forward) = false := by cases s <;> rfl
      rw [hnone]
      cases forward <;> simp [kindCode]
  | enumeration name =>
      have hnone : kindNeeds s (.enumeration name) = false := by cases s <;> rfl
      simp [hnone, kindCode]
  | boundedText range =>
      have hconstr : kindNeeds s (.boundedText range) = decide (s = .constr) := by cases s <;> rfl
      simp [hconstr, kindCode]
  | boundedInteger range =>
      have hconint : kindNeeds s (.boundedInteger range) = decide (s = .conint) := by
        cases s <;> rfl
      simp [hconint, kindCode]
  | boundedNumber range =>
      have hconfloat : kindNeeds s (.boundedNumber range) = decide (s = .confloat) := by
        cases s <;> rfl
      simp [hconfloat, kindCode]
  | unknown =>
      have hany : kindNeeds s .unknown = decide (s = .any) := by cases s <;> rfl
      simp [hany, kindCode]

theorem symbol_mem_basesCode {e : Enumeration} : .symbol s ∈ basesCode e ↔ s = .enum := by
  unfold basesCode
  split <;> simp

theorem symbol_mem_checkCode {v : ValidatorFunction} :
    .symbol s ∈ checkCode v ↔ s = .validator := by
  unfold checkCode
  simp

theorem symbol_mem_declarationCode {m : Model} {f : Field} : .symbol s ∈ declarationCode m f ↔
    s = .optional ∧ isWrapped m f = true ∨ s = .field ∧ usesFieldCall m f = true ∨
      kindNeeds s f.kind = true := by
  have hhint : .symbol s ∈ fieldCode m f ↔
      s = .optional ∧ isWrapped m f = true ∨ kindNeeds s f.kind = true := by
    unfold fieldCode
    split
    · next hwrapped => simp [optionalCode, symbol_mem_kindCode, hwrapped]
    · next hwrapped => simp [symbol_mem_kindCode, hwrapped]
  have halias : .symbol s ∉ aliasCode f := by
    unfold aliasCode
    split <;> simp
  have hdefault : .symbol s ∈ defaultCode m f ↔ s = .field ∧ usesFieldCall m f = true := by
    unfold defaultCode
    cases f.optional <;> cases usesFieldCall m f <;> simp [halias]
  unfold declarationCode
  rw [List.mem_append, List.mem_append, hhint, hdefault]
  simp only [List.mem_cons, reduceCtorEq, List.not_mem_nil, or_self, false_or]
  tauto

theorem uses_symbol_modelsCode {enums : List Enumeration} {models : List Model} :
    Uses (modelsCode enums models) (.symbol s) ↔ s = .enum ∧ enums ≠ [] ∨
      (∃ m ∈ models, ∃ f ∈ m.fields, s = .optional ∧ isWrapped m f = true ∨
        s = .field ∧ usesFieldCall m f = true ∨ kindNeeds s f.kind = true) ∨
      s = .validator ∧ ∃ m ∈ models, m.validators ≠ [] := by
  unfold modelsCode
  simp only [uses_append, uses_flatMap, uses_map, symbol_mem_basesCode, symbol_mem_declarationCode,
    symbol_mem_checkCode, exists_mem_and_iff, and_or_left, exists_or]
  have hchecks : (∃ m ∈ models, s = .validator ∧ m.validators ≠ []) ↔
      s = .validator ∧ ∃ m ∈ models, m.validators ≠ [] := by
    grind
  rw [hchecks]

theorem anyKind_eq_true {models : List Model} {test : Kind → Bool} : anyKind models test = true ↔
    ∃ m ∈ models, ∃ f ∈ m.fields, f.kind.anyPart test = true := by
  simp [anyKind, fieldKinds]

theorem anyField_eq_true {models : List Model} {test : Model → Field → Bool} :
    anyField models test = true ↔ ∃ m ∈ models, ∃ f ∈ m.fields, test m f = true := by
  simp [anyField]

theorem forwardModels_ne_nil {models : List Model} :
    forwardModels models ≠ [] ↔ ∃ m ∈ models, m.hasForward = true := by
  simp [forwardModels]

/-- Each import of the models module is there exactly if the code uses what it brings, and forward
references are resolved exactly if some model has any. -/
structure ExactModelImports (i : ModelImports) (code : List Code) (forward : List String) :
    Prop where
  date : i.date = true ↔ Uses code (.symbol .date)
  datetime : i.datetime = true ↔ Uses code (.symbol .datetime)
  enums : i.enums = true ↔ Uses code (.symbol .enum)
  optional : i.optional = true ↔ Uses code (.symbol .optional)
  list : i.list = true ↔ Uses code (.symbol .list)
  any : i.any = true ↔ Uses code (.symbol .any)
  field : i.field = true ↔ Uses code (.symbol .field)
  validator : i.validator = true ↔ Uses code (.symbol .validator)
  constr : i.constr = true ↔ Uses code (.symbol .constr)
  conint : i.conint = true ↔ Uses code (.symbol .conint)
  confloat : i.confloat = true ↔ Uses code (.symbol .confloat)
  forwardRefs : i.forwardRefs = true ↔ forward ≠ []

theorem exactModelImports_collect (enums : List Enumeration) (models : List Model) :
    ExactModelImports (.collect enums models) (modelsCode enums models) (forwardModels models) := by
  constructor
  all_goals
    simp only [ModelImports.collect, uses_symbol_modelsCode, kindNeeds, anyKind_eq_true,
      anyField_eq_true, forwardModels_ne_nil, reduceCtorEq, false_and, false_or, or_false,
      true_and, Bool.false_eq_true, and_false, exists_false]
  case enums => simp
  case any => simp [fieldKinds]
  case validator => simp
  case forwardRefs => simp

/-! ## Client module -/

theorem className_not_mem_primitiveCode {name : String} {p : Primitive} :
    .className name ∉ primitiveCode p := by
  cases p <;> simp [primitiveCode]

theorem symbol_mem_typeCode {type : TypeRef} : .symbol s ∈ typeCode type ↔
    s = .list ∧ type.isList = true ∨ s = .dict ∧ type.isMap = true ∨ s = .any ∧ type.isAny = true ∨
      ∃ p, type.primitive? = some p ∧ .symbol s ∈ primitiveCode p := by
  cases type <;>
    simp [typeCode, TypeRef.isList, TypeRef.isMap, TypeRef.isAny, TypeRef.primitive?]

theorem className_mem_typeCode {name : String} {type : TypeRef} :
    .className name ∈ typeCode type ↔ type.model? = some name := by
  cases type <;> simp [typeCode, TypeRef.model?, className_not_mem_primitiveCode, eq_comm]

theorem symbol_mem_bodyCode {type : TypeRef} :
    .symbol s ∈ bodyCode type ↔ s = .json ∧ type.model?.isSome = true := by
  unfold bodyCode
  cases type <;> simp [TypeRef.model?]

theorem className_not_mem_bodyCode {name : String} {type : TypeRef} :
    .className name ∉ bodyCode type := by
  unfold bodyCode
  cases type <;> simp

theorem symbol_not_mem_returnCode {type : TypeRef} {mode : Mode} :
    .symbol s ∉ returnCode type mode := by
  unfold returnCode payloadCode
  cases type <;> cases mode <;> simp

theorem className_mem_returnCode {name : String} {type : TypeRef} {mode : Mode} :
    .className name ∈ returnCode type mode ↔ type.model? = some name := by
  unfold returnCode payloadCode
  cases type <;> cases mode <;> simp [TypeRef.model?, eq_comm]

theorem symbol_mem_helperCode : .symbol s ∈ helperCode ↔ s = .json := by
  unfold helperCode
  simp

theorem className_not_mem_helperCode {name : String} : .className name ∉ helperCode := by
  unfold helperCode
  simp

theorem symbol_mem_resultCode {c : Call} : .symbol s ∈ resultCode c ↔
    ∃ type, c.response = some type ∧ (s = .optional ∨ .symbol s ∈ typeCode type) := by
  unfold resultCode
  cases c.response <;> simp [optionalCode]

theorem className_mem_resultCode {name : String} {c : Call} : .className name ∈ resultCode c ↔
    ∃ type, c.response = some type ∧ type.model? = some name := by
  unfold resultCode
  cases c.response <;> simp [optionalCode, className_mem_typeCode]

theorem symbol_mem_proxyCode {mode : Mode} : .symbol s ∈ proxyCode mode ↔ s = .optional := by
  cases mode <;> simp [proxyCode]

theorem className_not_mem_proxyCode {name : String} {mode : Mode} :
    .className name ∉ proxyCode mode := by
  cases mode <;> simp [proxyCode]

theorem uses_symbol_parameterCodes {c : Call} {mode : Mode} :
    Uses (parameterCodes c mode) (.symbol s) ↔ s = .optional ∨
      (∃ type, c.body = some type ∧ .symbol s ∈ typeCode type) ∨
      ∃ p ∈ c.pathParameters, .symbol s ∈ primitiveCode p.type := by
  unfold parameterCodes
  cases c.body <;> cases c.queryModel <;> simp [symbol_mem_proxyCode] <;> grind

theorem uses_className_parameterCodes {name : String} {c : Call} {mode : Mode} :
    Uses (parameterCodes c mode) (.className name) ↔
      (∃ type, c.body = some type ∧ type.model? = some name) ∨ c.queryModel = some name := by
  unfold parameterCodes
  cases c.body <;> cases c.queryModel <;>
    simp [className_mem_typeCode, className_not_mem_primitiveCode, className_not_mem_proxyCode,
      eq_comm]

theorem uses_symbol_functionCode {mode : Mode} {c : Call} :
    Uses (functionCode mode c) (.symbol s) ↔ s = .optional ∨
      (∃ type ∈ c.bodyTypes, .symbol s ∈ typeCode type) ∨
      (∃ p ∈ c.pathParameters, .symbol s ∈ primitiveCode p.type) ∨
      s = .json ∧ c.sendsModel = true ∨
      c.shape.hasQuery = true ∧ (s = .queryParams ∨ s = .json) := by
  unfold functionCode queryCode
  rw [uses_append, uses_append, uses_append, uses_append, uses_symbol_parameterCodes]
  cases hbody : c.body <;> cases hresponse : c.response <;> cases c.shape.hasQuery <;>
    simp [Call.bodyTypes, Call.sendsModel, hbody, hresponse, symbol_mem_resultCode,
      symbol_mem_bodyCode, symbol_not_mem_returnCode, symbol_mem_helperCode] <;> grind

theorem uses_className_functionCode {name : String} {mode : Mode} {c : Call} :
    Uses (functionCode mode c) (.className name) ↔ name ∈ c.models := by
  unfold functionCode queryCode
  rw [uses_append, uses_append, uses_append, uses_append, uses_className_parameterCodes]
  cases hbody : c.body <;> cases hresponse : c.response <;> cases c.shape.hasQuery <;>
    simp [Call.models, Call.bodyTypes, hbody, hresponse, className_mem_resultCode,
      className_not_mem_bodyCode, className_mem_returnCode, className_not_mem_helperCode] <;>
    tauto

/-- Each import of the client module is there exactly if the code uses what it brings. -/
structure ExactClientImports (i : ClientImports) (code : List Code) : Prop where
  models : ∀ name, name ∈ i.models ↔ Uses code (.className name)
  list : i.list = true ↔ Uses code (.symbol .list)
  dict : i.dict = true ↔ Uses code (.symbol .dict)
  any : i.any = true ↔ Uses code (.symbol .any)
  date : i.date = true ↔ Uses code (.symbol .date)
  datetime : i.datetime = true ↔ Uses code (.symbol .datetime)
  json : i.json = true ↔ Uses code (.symbol .json)
  query : i.query = true ↔ Uses code (.symbol .queryParams)

theorem anyBody_eq_true {calls : List Call} {test : TypeRef → Bool} :
    anyBody calls test = true ↔ ∃ c ∈ calls, ∃ type ∈ c.bodyTypes, test type = true := by
  simp [anyBody]

theorem anyPrimitive_eq_true {calls : List Call} {p : Primitive} : anyPrimitive calls p = true ↔
    ∃ c ∈ calls, (∃ type ∈ c.bodyTypes, type.primitive? = some p) ∨
      ∃ parameter ∈ c.pathParameters, parameter.type = p := by
  simp [anyPrimitive, Call.primitives]

/-- The hypothesis says that the shape of every call agrees with its query. -/
theorem exactClientImports_collect {calls : List Call} (mode : Mode)
    (h : ∀ c ∈ calls, c.shape.hasQuery = c.queryModel.isSome) :
    ExactClientImports (.collect calls) (clientCode mode calls) := by
  constructor
  case models =>
    intro name
    simp [ClientImports.collect, clientCode, mem_sortedNames, uses_className_functionCode]
  case json | query =>
    simp only [ClientImports.collect, clientCode, uses_flatMap, uses_symbol_functionCode,
      symbol_mem_typeCode, symbol_mem_primitiveCode, List.any_eq_true]
    grind
  all_goals
    simp [ClientImports.collect, clientCode, anyBody_eq_true, anyPrimitive_eq_true,
      uses_symbol_functionCode, symbol_mem_typeCode, symbol_mem_primitiveCode]

end Symbols

/-! ## Rendered texts -/

/-- The code is what is rendered: the texts of the classes, and for the checks the text that the
built-in template gives. -/
structure SpellsModels (enums : List Enumeration) (models : List Model) : Prop where
  bases : ∀ e ∈ enums, (basesCode e).text = (EnumClass.ofEnumeration e).bases
  declarations : ∀ m ∈ models,
    (m.fields.map (declarationCode m)).map Code.text = (ModelClass.ofModel m).fields
  checks : ∀ m ∈ models, ∀ v ∈ (ModelClass.ofModel m).validators,
    ∀ (invoke : Invoke) (s : Scope), renderNodes invoke (s.inLoop "validator" v.toJson) checkPart =
      .ok (checkCode v).text.toList

theorem spellsModels (enums : List Enumeration) (models : List Model) :
    SpellsModels enums models := by
  refine ⟨fun e _ => text_basesCode e, ?_, fun _ _ v _ _ _ => renderNodes_checkPart v⟩
  intro m _
  rw [List.map_map]
  exact List.map_congr_left fun f _ => text_declarationCode m f

/-- The code is what is rendered: the texts of the functions, and for queries the text that the
built-in templates give. -/
structure SpellsClient (mode : Mode) (calls : List Call) : Prop where
  parameters : ∀ c ∈ calls,
    (parameterCodes c mode).map Code.text = (ClientFunction.ofCall mode c).parameters
  result : ∀ c ∈ calls, (resultCode c).text = (ClientFunction.ofCall mode c).returnHint
  body : ∀ c ∈ calls,
    (c.body.map bodyCode).map Code.text = (ClientFunction.ofCall mode c).bodyArgument
  response : ∀ c ∈ calls, (c.response.map fun type => returnCode type mode).map Code.text =
    (ClientFunction.ofCall mode c).returnExpression
  query : ∀ c ∈ calls,
    (queryCode c).map Code.text = (ClientFunction.ofCall mode c).queryArgument
  helper : ∀ (invoke : Invoke) (s : Scope),
    s.lookup ["json_args"] = some (.string jsonArguments) →
      renderNodes invoke s queryPart = .ok helperCode.text.toList

theorem spellsClient (mode : Mode) (calls : List Call) : SpellsClient mode calls := by
  refine ⟨fun c _ => text_parameterCodes c mode, fun c _ => text_resultCode c, ?_, ?_,
    fun c _ => text_queryCode c, fun _ _ h => renderNodes_queryPart h⟩
  · intro c _
    rw [Option.map_map]
    exact Option.map_congr fun type _ => text_bodyCode type
  · intro c _
    rw [Option.map_map]
    exact Option.map_congr fun type _ => text_returnCode type mode

/-! ## Built plans -/

theorem imports_of_build {d : Document} {s : Settings} {p : TypedClient.Plan}
    (h : build d s = .ok p) :
    p.modelImports = .collect p.enums p.models ∧ p.clientImports = .collect p.calls := by
  unfold build at h
  split at h
  · cases h
  · split at h
    · cases h
    · cases h
      exact ⟨rfl, rfl⟩

/-- In a plan that is built, the shape of every call agrees with its query. -/
theorem hasQuery_of_build {d : Document} {s : Settings} {p : TypedClient.Plan}
    (h : build d s = .ok p) {c : Call} (hc : c ∈ p.calls) :
    c.shape.hasQuery = c.queryModel.isSome := by
  obtain ⟨o, -, declared, body, response, split, -, rfl⟩ := exists_callOf_of_build h hc
  change (CallShape.select _ _).hasQuery =
    (if queryParametersOf o = [] then none else some (containerName o)).isSome
  rw [CallShape.hasQuery_select]
  cases queryParametersOf o <;> rfl

/-- The models module imports exactly what it uses, whatever its enumerations and models are, and in
every plan that is built so does the client module. -/
theorem exactImports_of_build :
    (∀ enums models, SpellsModels enums models ∧
      ExactModelImports (.collect enums models) (modelsCode enums models)
        (forwardModels models)) ∧
    ∀ (d : Document) (s : Settings) (p : TypedClient.Plan), build d s = .ok p →
      ExactModelImports p.modelImports (modelsCode p.enums p.models) (forwardModels p.models) ∧
      SpellsClient p.mode p.calls ∧
      ExactClientImports p.clientImports (clientCode p.mode p.calls) := by
  refine ⟨fun enums models => ⟨spellsModels enums models, exactModelImports_collect enums models⟩,
    ?_⟩
  intro d s p h
  obtain ⟨hmodels, hclient⟩ := imports_of_build h
  rw [hmodels, hclient]
  exact ⟨exactModelImports_collect _ _, spellsClient _ _,
    exactClientImports_collect p.mode fun c hc => hasQuery_of_build h hc⟩

theorem exactImports_of_build_shop : ∃ p, build shop {} = .ok p ∧
    p.modelImports.list = true ∧ p.modelImports.date = false ∧
    p.clientImports.query = true ∧ p.clientImports.dict = false ∧
    ExactModelImports p.modelImports (modelsCode p.enums p.models) (forwardModels p.models) ∧
    ExactClientImports p.clientImports (clientCode p.mode p.calls) := by
  have hbuilds : builds shop {} (fun p => p.modelImports.list && !p.modelImports.date &&
      p.clientImports.query && !p.clientImports.dict) = true := by
    decide +kernel
  obtain ⟨p, hp, htest⟩ := exists_of_builds hbuilds
  simp only [Bool.and_eq_true, Bool.not_eq_true'] at htest
  obtain ⟨⟨⟨hlist, hdate⟩, hquery⟩, hdict⟩ := htest
  obtain ⟨hmodels, -, hclient⟩ := exactImports_of_build.2 shop {} p hp
  exact ⟨p, hp, hlist, hdate, hquery, hdict, hmodels, hclient⟩

end TypedClient.Render
