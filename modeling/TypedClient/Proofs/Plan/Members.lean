import TypedClient.Proofs.Plan.FieldNames
import TypedClient.Proofs.Plan.Required

/-!
# Members of classes

The fields of a model and the functions of its checks are members of one class, where the last of
two members of one name replaces the other. Fields are kept distinct among themselves, and so are
the checks, which are named for their fields. But nothing keeps the two apart: the check of a field
is called like another field that has `optional_` in front of the same identifier. So the members of
all classes are distinct exactly if no object has two such properties that are sent together
(`nodup_memberNames_iff`).
-/

namespace TypedClient.Plan

open Client (Settings)
open OpenApi (Document Schema)
open Claiming

/-- The names of the members of the class: its fields, then the functions of its checks. -/
def Model.memberNames (m : Model) : List String :=
  m.fields.map Field.name ++ m.validators.map Validator.functionName

/-! ## Members of one class -/

theorem map_functionName_validatorsOf (fields : List Field) :
    (validatorsOf fields).map Validator.functionName =
      ((fields.filter Field.rejectsNull).map Field.name).map ("optional_" ++ ·) := by
  rw [validatorsOf, List.map_map, List.map_map]
  rfl

/-- Checks that are named for distinct fields can only meet a field. -/
theorem nodup_memberNames_iff_of_checks {m : Model} (hnames : (m.fields.map Field.name).Nodup)
    (hchecks : m.validators = validatorsOf m.fields) :
    m.memberNames.Nodup ↔ ∀ f ∈ m.fields, f.rejectsNull = true → ∀ g ∈ m.fields,
      g.name ≠ "optional_" ++ f.name := by
  have hdistinct : ((validatorsOf m.fields).map Validator.functionName).Nodup := by
    rw [map_functionName_validatorsOf]
    apply (hnames.sublist (List.filter_sublist.map Field.name)).map
    exact fun a b h => (String.append_right_inj "optional_").1 h
  rw [Model.memberNames, hchecks, List.nodup_append]
  constructor
  · rintro ⟨-, -, hdisjoint⟩ f hf hrejects g hg
    apply hdisjoint _ (List.mem_map_of_mem hg)
    rw [map_functionName_validatorsOf]
    exact List.mem_map_of_mem (List.mem_map_of_mem (List.mem_filter.2 ⟨hf, hrejects⟩))
  · intro h
    refine ⟨hnames, hdistinct, ?_⟩
    rw [map_functionName_validatorsOf]
    intro name hname check hcheck
    obtain ⟨g, hg, rfl⟩ := List.mem_map.1 hname
    obtain ⟨_, hfield, rfl⟩ := List.mem_map.1 hcheck
    obtain ⟨f, hf, rfl⟩ := List.mem_map.1 hfield
    obtain ⟨hf, hrejects⟩ := List.mem_filter.1 hf
    exact h f hf hrejects g hg

theorem Model.Placed.memberNames_eq {split : List String} {variant m : Model}
    (h : Model.Placed split variant m) : m.memberNames = variant.memberNames := by
  rw [memberNames, memberNames, h.map_name, h.validators_eq]

/-! ## Classes of one object -/

/-- Two fields stand in one variant exactly if they are sent in one direction. -/
theorem exists_mem_variants_iff {m : Model} {f g : Field} (hf : f ∈ m.fields) (hg : g ∈ m.fields) :
    (∃ variant ∈ m.variants, f ∈ variant.fields ∧ g ∈ variant.fields) ↔
      ∃ v : Variant, v.includes f.visibility = true ∧ v.includes g.visibility = true := by
  have hderive : ∀ v : Variant, (f ∈ (m.derive v).fields ∧ g ∈ (m.derive v).fields) ↔
      v.includes f.visibility = true ∧ v.includes g.visibility = true := by
    intro v
    change f ∈ m.fields.filter _ ∧ g ∈ m.fields.filter _ ↔ _
    rw [List.mem_filter, List.mem_filter]
    exact ⟨fun h => ⟨h.1.2, h.2.2⟩, fun h => ⟨⟨hf, h.1⟩, hg, h.2⟩⟩
  cases hdirected : m.isDirected with
  | true =>
      rw [Model.variants_of_directed hdirected]
      simp only [List.mem_cons, List.not_mem_nil, or_false, exists_eq_or_imp, exists_eq_left,
        hderive]
      constructor
      · rintro (h | h)
        · exact ⟨.request, h⟩
        · exact ⟨.response, h⟩
      · rintro ⟨_ | _, h⟩
        · exact Or.inl h
        · exact Or.inr h
  | false =>
      rw [Model.variants_of_undirected hdirected]
      have hstandard : ∀ f ∈ m.fields, f.visibility = .standard := by
        rw [Model.isDirected, List.any_eq_false] at hdirected
        exact fun f hf => by simpa using hdirected f hf
      rw [hstandard f hf, hstandard g hg]
      exact ⟨fun _ => ⟨.request, rfl, rfl⟩, fun _ => ⟨m, List.mem_singleton_self m, hf, hg⟩⟩

/-- A property of an object with the identifier of its field. -/
structure Identified where
  identifier : String
  wireName : String
  schema : Schema

def Identified.ofProperty (identifier : String) (x : String × Schema) : Identified where
  identifier := identifier
  wireName := x.1
  schema := x.2

/-- The properties of an object in order. Their identifiers are kept distinct. -/
def identified (s : Schema) : List Identified :=
  List.zipWith Identified.ofProperty
    (Lexical.uniqueAll [] ((propertiesOf s).map fun x => Naming.fieldName x.1)) (propertiesOf s)

namespace Components

variable (components : Components)

/-- The property of the object has to be there and may not be null. -/
def RejectsNull (s : Schema) (x : Identified) : Prop :=
  x.wireName ∈ s.required ∧ components.nullable x.schema = false

/-- The two properties are sent in one direction. -/
def SentTogether (x y : Identified) : Prop :=
  ∃ v : Variant, v.includes (components.visibility x.schema) = true ∧
    v.includes (components.visibility y.schema) = true

/-- No check of the object is called like a field that is sent together with its own. -/
def KeepsMembers (s : Schema) : Prop :=
  ∀ x ∈ identified s, ∀ y ∈ identified s, components.RejectsNull s x →
    components.SentTogether x y → y.identifier ≠ "optional_" ++ x.identifier

end Components

section Objects

variable {components : Components} {component name : String} {s : Schema} {m : Model}

theorem forall₂_zipWith_identified {R : String × Schema → Field → Prop}
    {xs : List (String × Schema)} {fields : List Field} (h : List.Forall₂ R xs fields) :
    List.Forall₂ (fun x f => f.name = x.identifier ∧ R (x.wireName, x.schema) f)
      (List.zipWith Identified.ofProperty (fields.map Field.name) xs) fields := by
  induction h with
  | nil => exact List.Forall₂.nil
  | cons hR _ ih => exact List.Forall₂.cons ⟨rfl, hR⟩ ih

/-- The fields of the model of an object are those of its properties, identifiers included. -/
theorem forall₂_identified (h : Yields (components.model name component s) m) :
    List.Forall₂ (fun x f => f.name = x.identifier ∧
      f.OfProperty components s.required (x.wireName, x.schema)) (identified s) m.fields := by
  have hfields := (describes_of_yields_model h).fields
  have hnames : m.fields.map Field.name =
      Lexical.uniqueAll [] ((propertiesOf s).map fun x => Naming.fieldName x.1) := by
    obtain ⟨properties, hproperties, h⟩ := exists_yields_of_bind h
    rw [← eq_of_yields_pure h, map_name_fieldsOf]
    congr 1
    refine map_eq_map_of_forall₂ (forall₂_of_yields_mapM hproperties) ?_
    intro x p hp
    obtain ⟨property, -, hp⟩ := exists_yields_of_bind hp
    rw [← eq_of_yields_pure hp]
  rw [identified, ← hnames]
  exact forall₂_zipWith_identified hfields

theorem rejectsNull_iff_of_ofProperty {x : Identified} {f : Field}
    (h : f.OfProperty components s.required (x.wireName, x.schema)) :
    f.rejectsNull = true ↔ components.RejectsNull s x := by
  rw [rejectsNull_iff, h.optional_eq, h.nullable_eq, Components.RejectsNull]
  simp

/-- The classes of an object have distinct members exactly if its properties allow it. -/
theorem forall_variants_nodup_iff (h : Yields (components.model name component s) m) :
    (∀ variant ∈ m.variants, variant.memberNames.Nodup) ↔ components.KeepsMembers s := by
  have hdescribes := describes_of_yields_model h
  have hall := forall₂_identified h
  have hvariants : (∀ variant ∈ m.variants, variant.memberNames.Nodup) ↔
      ∀ f ∈ m.fields, f.rejectsNull = true → ∀ g ∈ m.fields,
        (∃ v : Variant, v.includes f.visibility = true ∧ v.includes g.visibility = true) →
          g.name ≠ "optional_" ++ f.name := by
    constructor
    · intro hnodup f hf hrejects g hg htogether
      obtain ⟨variant, hvariant, hf', hg'⟩ := (exists_mem_variants_iff hf hg).2 htogether
      obtain ⟨hnames, hchecks⟩ := checks_of_mem_variants hdescribes hvariant
      exact (nodup_memberNames_iff_of_checks hnames hchecks).1 (hnodup variant hvariant) f hf'
        hrejects g hg'
    · intro hapart variant hvariant
      obtain ⟨hnames, hchecks⟩ := checks_of_mem_variants hdescribes hvariant
      have hsubset := (fields_sublist_of_mem_variants hvariant).subset
      rw [nodup_memberNames_iff_of_checks hnames hchecks]
      intro f hf hrejects g hg
      apply hapart f (hsubset hf) hrejects g (hsubset hg)
      exact (exists_mem_variants_iff (hsubset hf) (hsubset hg)).1 ⟨variant, hvariant, hf, hg⟩
  rw [hvariants]
  constructor
  · intro hapart x hx y hy hrejects htogether
    obtain ⟨f, hf, hname, hfx⟩ := exists_of_mem_left hall hx
    obtain ⟨g, hg, hname', hgy⟩ := exists_of_mem_left hall hy
    rw [← hname, ← hname']
    apply hapart f hf ((rejectsNull_iff_of_ofProperty hfx).2 hrejects) g hg
    rwa [hfx.visibility_eq, hgy.visibility_eq]
  · intro hkeeps f hf hrejects g hg htogether
    obtain ⟨x, hx, hname, hfx⟩ := exists_of_mem_right hall hf
    obtain ⟨y, hy, hname', hgy⟩ := exists_of_mem_right hall hg
    rw [hname, hname']
    apply hkeeps x hx y hy ((rejectsNull_iff_of_ofProperty hfx).1 hrejects)
    rwa [hfx.visibility_eq, hgy.visibility_eq] at htogether

theorem exists_yields_model_of_declare (h : Yields (components.declare component s) (some m)) :
    ∃ name, Target.ofComponent component s = .model name ∧
      Yields (components.model name component s) m := by
  unfold Components.declare at h
  cases htarget : Target.ofComponent component s with
  | model name =>
      rw [htarget] at h
      obtain ⟨-, -, h⟩ := exists_yields_of_bind h
      obtain ⟨model, hmodel, h⟩ := exists_yields_of_bind h
      cases eq_of_yields_pure h
      exact ⟨name, rfl, hmodel⟩
  | enumeration name =>
      rw [htarget] at h
      obtain ⟨-, -, h⟩ := exists_yields_of_bind h
      obtain ⟨-, -, h⟩ := exists_yields_of_bind h
      cases eq_of_yields_pure h
  | aliasOf named =>
      rw [htarget] at h
      cases eq_of_yields_pure h

/-- The models of all components are those that the object components yield. -/
theorem yields_model_of_yields_models {base : List Model} (h : Yields components.models base) :
    (∀ m ∈ base, ∃ component s name, (component, s) ∈ components ∧
      Target.ofComponent component s = .model name ∧
        Yields (components.model name component s) m) ∧
    ∀ component s name, (component, s) ∈ components →
      Target.ofComponent component s = .model name →
        ∃ m ∈ base, Yields (components.model name component s) m := by
  obtain ⟨declared, hdeclared, h⟩ := exists_yields_of_bind h
  have hall := forall₂_of_yields_mapM hdeclared
  rw [← eq_of_yields_pure h]
  constructor
  · intro m hm
    obtain ⟨_, hmem, rfl⟩ := List.mem_filterMap.1 hm
    obtain ⟨⟨component, s⟩, hc, hyields⟩ := exists_of_mem_right hall hmem
    obtain ⟨name, htarget, hmodel⟩ := exists_yields_model_of_declare hyields
    exact ⟨component, s, name, hc, htarget, hmodel⟩
  · intro component s name hc htarget
    obtain ⟨d, hd, hyields⟩ := exists_of_mem_left hall hc
    obtain ⟨m, rfl⟩ :=
      Option.isSome_iff_exists.1 ((describes_of_yields_declare hyields).2 name htarget)
    obtain ⟨name', htarget', hmodel⟩ := exists_yields_model_of_declare hyields
    rw [htarget] at htarget'
    cases htarget'
    exact ⟨m, List.mem_filterMap.2 ⟨some m, hd, rfl⟩, hmodel⟩

end Objects

/-! ## Built plans -/

theorem forall_memberNames_orderModels_iff (models : List Model) :
    (∀ m ∈ orderModels (splitOf models), m.memberNames.Nodup) ↔
      ∀ drafted ∈ models, ∀ variant ∈ drafted.variants, variant.memberNames.Nodup := by
  obtain ⟨placed, hperm, hall⟩ := exists_placed models
  simp only [← hperm.mem_iff]
  constructor
  · intro hnodup drafted hdrafted variant hvariant
    obtain ⟨m, hm, hplaced⟩ :=
      exists_of_mem_left hall (List.mem_flatMap.2 ⟨drafted, hdrafted, hvariant⟩)
    rw [← hplaced.memberNames_eq]
    exact hnodup m hm
  · intro hnodup m hm
    obtain ⟨variant, hvariant, hplaced⟩ := exists_of_mem_right hall hm
    obtain ⟨drafted, hdrafted, hvariant⟩ := List.mem_flatMap.1 hvariant
    rw [hplaced.memberNames_eq]
    exact hnodup drafted hdrafted variant hvariant

/-- The members of every class are distinct exactly if no object has a property that rejects null
and another, sent together with it, whose identifier is the name of the check. -/
theorem nodup_memberNames_iff (d : Document) (s : Settings) (p : TypedClient.Plan)
    (h : build d s = .ok p) :
    (∀ m ∈ p.models, m.memberNames.Nodup) ↔
      ∀ component schema name, (component, schema) ∈ d.schemas →
        Target.ofComponent component schema = .model name →
          Components.KeepsMembers d.schemas schema := by
  obtain ⟨base, made, n, hdrafted, hmodels, -, -, -⟩ := build_eq_ok h
  obtain ⟨hfrom, hto⟩ := yields_model_of_yields_models hdrafted.modelsYielded
  rw [hmodels, forall_memberNames_orderModels_iff]
  constructor
  · intro hnodup component schema name hmem htarget
    obtain ⟨m, hm, hyields⟩ := hto component schema name hmem htarget
    exact (forall_variants_nodup_iff hyields).1 (hnodup m (mem_allModels.2 (Or.inl hm)))
  · intro hkeeps drafted hmem
    rcases mem_allModels.1 hmem with hbase | ⟨r, hr, hquery⟩
    · obtain ⟨component, schema, name, hschema, htarget, hyields⟩ := hfrom drafted hbase
      exact (forall_variants_nodup_iff hyields).2 (hkeeps component schema name hschema htarget)
    · obtain ⟨o, -, hyields⟩ :=
        exists_of_mem_right (forall₂_of_yields_mapM hdrafted.callsYielded) hr
      have hcollects := (collects_of_yields_call hyields).2.2 drafted hquery
      intro variant hvariant
      rw [hcollects.variants_eq, List.mem_singleton] at hvariant
      rw [hvariant, Model.memberNames, hcollects.validators_eq, List.map_nil, List.append_nil]
      exact (hdrafted.areFieldNames hmem).nodup

/-- Boxes: the number of a box is only sent in responses and its optional number only in
requests. -/
def boxes : Document where
  version := "3.0.0"
  info := none
  servers := []
  operations := []
  schemas := [("box", {
    type := some (.one "object")
    properties := some [
      ("number", { type := some (.one "integer"), readOnly := true }),
      ("optional_number", { type := some (.one "integer"), writeOnly := true }),
      ("tag", { type := some (.one "string"), nullable := true }),
      ("optional_tag", { type := some (.one "string") })]
    required := ["number", "tag"] })]

theorem nodup_memberNames_iff_boxes : ∃ p, build boxes {} = .ok p ∧
    p.models.map Model.memberNames =
      [["optional_number", "tag", "optional_tag"],
        ["number", "tag", "optional_tag", "optional_number"]] ∧
    ∀ component schema name, (component, schema) ∈ boxes.schemas →
      Target.ofComponent component schema = .model name →
        Components.KeepsMembers boxes.schemas schema := by
  have hbuilds : builds boxes {} (fun p => p.models.map Model.memberNames ==
      [["optional_number", "tag", "optional_tag"],
        ["number", "tag", "optional_tag", "optional_number"]]) = true := by decide +kernel
  obtain ⟨p, hp, hmembers⟩ := exists_of_builds hbuilds
  have hmembers := eq_of_beq hmembers
  refine ⟨p, hp, hmembers, (nodup_memberNames_iff boxes {} p hp).1 ?_⟩
  intro m hm
  have hnames := List.mem_map_of_mem (f := Model.memberNames) hm
  have hall : ∀ names ∈ [["optional_number", "tag", "optional_tag"],
      ["number", "tag", "optional_tag", "optional_number"]], names.Nodup := by decide
  rw [hmembers] at hnames
  exact hall _ hnames

/-- A pet with a name, and with another property that is called like the check of the name. -/
def optionalName : Json := .object [
  ("openapi", .string "3.0.0"),
  ("paths", .object []),
  ("components", .object [("schemas", .object [
    ("Pet", .object [
      ("type", .string "object"),
      ("required", .array [.string "name"]),
      ("properties", .object [
        ("name", .object [("type", .string "string")]),
        ("optional_name", .object [("type", .string "string")])])])])])]

theorem memberNames_optionalName :
    ∃ d p, Document.ofJson optionalName = .ok d ∧ build d {} = .ok p ∧
      p.models.map Model.memberNames = [["name", "optional_name", "optional_name"]] ∧
      ¬∀ m ∈ p.models, m.memberNames.Nodup := by
  have hgenerates : generates optionalName {} (fun p => p.models.map Model.memberNames ==
      [["name", "optional_name", "optional_name"]]) = true := by decide +kernel
  obtain ⟨d, p, hd, hp, hmembers⟩ := exists_of_generates hgenerates
  have hmembers := eq_of_beq hmembers
  refine ⟨d, p, hd, hp, hmembers, ?_⟩
  obtain ⟨m, hm, hnames⟩ := List.mem_map.1 (hmembers ▸ List.mem_singleton_self _)
  intro hall
  have hnodup := hall m hm
  rw [hnames] at hnodup
  revert hnodup
  decide

end TypedClient.Plan
