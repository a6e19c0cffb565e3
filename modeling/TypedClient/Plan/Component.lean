import TypedClient.Plan.Names

/-!
# Component schemas

A component is an enumeration, a model or an alias for some other schema.  Classifying a property
gives its kind: references are followed through aliases, and every array item starts a chain of
references of its own.  `referenceKind` counts the components that are looked at; a chain in which
none comes back looks at each at most once, and one in which some alias comes back either gets too
deep or leads back to itself.
-/

namespace TypedClient.Plan

open OpenApi (Schema)

/-- The result of a stage that gives names: a value and the names that hold from then on. -/
abbrev Claiming := StateT Names (Except GenerationError)

/-- Does what needs the names, and keeps those that result. -/
def withNames {α : Type} (f : Names → Except GenerationError (α × Names)) : Claiming α := f

/-- Claims a class name. -/
def claimType (name origin : String) : Claiming Unit :=
  withNames fun n => (n.claimType name origin).map ((), ·)

/-- Claims a function name. -/
def claimFunction (name origin : String) : Claiming Unit :=
  withNames fun n => (n.claimFunction name origin).map ((), ·)

/-- The component schemas of a document. -/
abbrev Components := List (String × Schema)

/-- What a component stands for. -/
inductive Target where
  | model (name : String)
  | enumeration (name : String)
  | aliasOf (schema : Schema)

/-- What a component stands for, from its name and schema. -/
def Target.ofComponent (component : String) (s : Schema) : Target :=
  if s.isStringEnum then enumeration (Naming.modelName component)
  else if s.isObjectModel then model (Naming.modelName component)
  else aliasOf s

/-- How many alias components may stand in a row. -/
def maxAliases : Nat := 16

namespace Components

/-- The component that a reference names, with its schema. -/
def find (components : Components) (reference : String) :
    Except GenerationError (String × Schema) :=
  match Naming.referencedComponent? reference with
  | none => .error (.unresolved (.dangling reference))
  | some component =>
    match components.lookup component with
    | none => .error (.unresolved (.dangling reference))
    | some schema => .ok (component, schema)

/-- What a reference stands for. -/
def target (components : Components) (reference : String) : Except GenerationError Target :=
  match components.find reference with
  | .ok (component, schema) => .ok (.ofComponent component schema)
  | .error e => .error e

/-- Only a reference that names a component stands for something. -/
theorem target_eq_ok {components : Components} {reference : String} {t : Target}
    (h : components.target reference = .ok t) :
    ∃ component schema, components.find reference = .ok (component, schema) ∧
      t = .ofComponent component schema := by
  unfold target at h
  split at h
  · next component schema hf =>
    cases h
    exact ⟨component, schema, hf, rfl⟩
  · cases h

end Components

/-! ## Kinds of schemas -/

/-- The kind of a text. -/
def textKind (owner field : String) (s : Schema) : Claiming Kind :=
  if s.hasLengthConstraints then pure (.boundedText ⟨s.minLength, s.maxLength⟩)
  else
    match s.format with
    | some format => pure (.primitive (.ofFormat format))
    | none =>
      match s.enumeration.getD [] with
      | [] => pure (.primitive .str)
      | values => do
        let name ← withNames fun n => n.fieldEnum owner field values
        return .enumeration name

/-- The kind of a type token other than `string` and `array`. -/
def tokenKind (owner field token : String) (s : Schema) : Except GenerationError Kind :=
  if token == "integer" && s.hasNumericConstraints then .ok (.boundedInteger (.ofSchema s))
  else if token == "number" && s.hasNumericConstraints then .ok (.boundedNumber (.ofSchema s))
  else
    match Primitive.ofType? token with
    | some p => .ok (.primitive p)
    | none => .error (.unsupportedType owner field token)

/-- The kind of a schema that is no reference.  `follow` gives the kind of a reference. -/
def inlineKind (follow : String → Claiming Kind) (owner field : String) (s : Schema) :
    Claiming Kind :=
  match s.type with
  | none => throw (.unsupportedType owner field "<missing>")
  | some type =>
    match type.primary?.getD "null" with
    | "string" => textKind owner field s
    | "array" =>
      match _hitems : s.items with
      | none => pure (.list .unknown)
      | some items =>
        match items.reference, items.type with
        | some reference, _ => .list <$> follow reference
        | none, none => pure (.list .unknown)
        | none, some _ => .list <$> inlineKind follow owner field items
    | token => liftM (tokenKind owner field token s)
termination_by sizeOf s
decreasing_by
  cases s
  simp only [Schema.mk.sizeOf_spec]
  simp only at _hitems
  subst _hitems
  simp only [Option.some.sizeOf_spec]
  omega

/-- The kind of a reference that stands behind `aliases` others, looking at no more than `looks`
components. -/
def referenceKind (components : Components) (owner field : String) :
    (looks aliases : Nat) → (reference : String) → Claiming Kind
  | 0, _, reference => throw (.unresolved (.endless reference))
  | looks + 1, aliases, reference =>
    if maxAliases < aliases then throw (.unresolved (.deepAlias reference))
    else do
      match ← liftM (components.target reference) with
      | .model name => return .model name false
      | .enumeration name => return .enumeration name
      | .aliasOf s =>
        match s.reference with
        | some next => referenceKind components owner field looks (aliases + 1) next
        | none => inlineKind (referenceKind components owner field looks 0) owner field s

/-- How many components are looked at for one reference: all of them, and those that are looked at
again before a chain of aliases is too deep. -/
def Components.looks (components : Components) : Nat := components.length + maxAliases + 2

/-- The kind of a reference, which starts a chain. -/
def Components.referenceKind (components : Components) (owner field reference : String) :
    Claiming Kind :=
  Plan.referenceKind components owner field components.looks 0 reference

/-! ## Properties -/

/-- What is known of a property. -/
structure Property where
  kind : Kind
  nullable : Bool
  visibility : Visibility

/-- Classifies a property.  A reference adds what the schema that it names says. -/
def Components.property (components : Components) (owner field : String) (s : Schema) :
    Claiming Property :=
  match s.reference with
  | some reference => do
    let (_, named) ← liftM (components.find reference)
    let kind ← components.referenceKind owner field reference
    return {
      kind := kind
      nullable := s.isNullable || named.isNullable
      visibility := .ofFlags (s.readOnly || named.readOnly) (s.writeOnly || named.writeOnly) }
  | none => do
    let kind ← inlineKind (components.referenceKind owner field) owner field s
    return {
      kind := kind
      nullable := s.isNullable
      visibility := .ofFlags s.readOnly s.writeOnly }

/-! ## Models of components -/

/-- Classifies properties one after another. -/
def Components.properties (components : Components) (owner : String)
    (properties : List (String × Schema)) : Claiming (List (String × Property)) :=
  properties.mapM fun (wireName, s) => do
    let property ← components.property owner wireName s
    return (wireName, property)

/-- The fields of an object with the given required properties.  Identifiers are kept distinct. -/
def fieldsOf (required : List String) (properties : List (String × Property)) : List Field :=
  let names := Lexical.uniqueAll [] (properties.map fun p => Naming.fieldName p.1)
  List.zipWith (fun name (wireName, p) => {
    name := name
    wireName := wireName
    kind := p.kind
    optional := !required.contains wireName
    nullable := p.nullable
    visibility := p.visibility }) names properties

/-- The checks of a model: one for each field that rejects null. -/
def validatorsOf (fields : List Field) : List Validator :=
  (fields.filter Field.rejectsNull).map fun f => ⟨f.name⟩

/-- The model of an object component. -/
def Components.model (components : Components) (name component : String) (s : Schema) :
    Claiming Model := do
  let properties ← components.properties name (s.properties.getD [])
  let fields := fieldsOf s.required properties
  return {
    name := name
    fields := fields
    validators := validatorsOf fields
    origin := .component component }

/-- What a component is claimed for. -/
def componentOrigin (component : String) : String := "components.schemas." ++ component

/-- Declares what a component stands for.  Only object components give a model. -/
def Components.declare (components : Components) (component : String) (s : Schema) :
    Claiming (Option Model) :=
  match Target.ofComponent component s with
  | .model name => do
    claimType name (componentOrigin component)
    let model ← components.model name component s
    return some model
  | .enumeration name => do
    claimType name (componentOrigin component)
    let _ ← withNames fun n =>
      n.namedEnum name (s.enumeration.getD []) (componentOrigin component)
    return none
  | .aliasOf _ => return none

/-- The models of all components, in document order. -/
def Components.models (components : Components) : Claiming (List Model) := do
  let declared ← List.mapM (fun (component, s) => components.declare component s) components
  return declared.filterMap id

end TypedClient.Plan
