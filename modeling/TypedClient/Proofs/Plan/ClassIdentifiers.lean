import TypedClient.Proofs.Lexical.ClassWords
import TypedClient.Proofs.Plan.Classes
import TypedClient.Proofs.Plan.Enumerations

/-!
# Class names as identifiers

The class name of a component is made a valid identifier, and it stays one with the ending of a
variant. Containers and the enumerations of fields get their names without that step: a container is
named by a valid function name, but without the underscores that may stand in front of a digit, and
an enumeration by its field as the document spells it. So the class names of a plan are valid
exactly if no such digit comes to stand in front and the fields with an enumeration are spelled like
identifiers (`isValidIdentifier_classNames_iff`).
-/

namespace TypedClient.Plan

open Client (Settings)
open OpenApi (Document Operation Schema)
open Lexical (IsStem isValidIdentifier)

/-! ## Names of single classes -/

/-- Whether the name starts with a digit behind its underscores. -/
def startsWithDigit (name : String) : Bool :=
  (name.toList.dropWhile (· == '_')).head?.any Char.isDigit

theorem isValidIdentifier_modelName (component : String) :
    isValidIdentifier (Naming.modelName component) = true :=
  Lexical.isValidIdentifier_sanitize _

theorem isValidIdentifier_nameOf {name : String} (h : isValidIdentifier name = true) (v : Variant) :
    isValidIdentifier (v.nameOf name) = true := by
  have hsuffix : isValidIdentifier v.suffix = true := by cases v <;> decide
  have hkeyword : ∀ k ∈ Lexical.keywords, ¬v.suffix.toList <:+ k.toList := by
    cases v <;> decide
  exact (Lexical.isValidIdentifier_append_iff hsuffix hkeyword name).2
    (Lexical.isValidIdentifier_iff.1 h).1.isStem

theorem isValidIdentifier_functionNameOf (o : Operation) :
    isValidIdentifier (functionNameOf o) = true := by
  unfold functionNameOf Naming.functionName
  exact Lexical.isValidIdentifier_sanitize _

theorem isValidIdentifier_containerName_iff (o : Operation) :
    isValidIdentifier (containerName o) = true ↔ startsWithDigit (functionNameOf o) = false := by
  have hchars := (Lexical.isValidIdentifier_iff.1 (isValidIdentifier_functionNameOf o)).1.chars
  unfold containerName Naming.queryModelName Naming.typeWords
  rw [Lexical.isValidIdentifier_append_iff (by decide) (by decide), String.toList_ofList,
    Naming.isStem_typeCase_iff hchars]
  unfold startsWithDigit
  cases ((functionNameOf o).toList.dropWhile (· == '_')).head? <;> simp

theorem isValidIdentifier_enumName_iff (owner field : String) :
    isValidIdentifier (Naming.enumName owner field) = true ↔
      IsStem (Naming.typeWords (owner ++ "_" ++ field)).toList := by
  unfold Naming.enumName
  exact Lexical.isValidIdentifier_append_iff (by decide) (by decide) _

/-- A component is named by its class name, whatever it stands for. -/
theorem eq_modelName_of_ofComponent {component name : String} {schema : Schema}
    (h : Target.ofComponent component schema = .model name ∨
      Target.ofComponent component schema = .enumeration name) :
    name = Naming.modelName component := by
  unfold Target.ofComponent at h
  split at h
  · exact (Target.enumeration.inj (h.resolve_left (by simp))).symm
  · split at h
    · exact (Target.model.inj (h.resolve_right (by simp))).symm
    · exact absurd h (by simp)

/-! ## Names of all classes -/

/-- The models of a plan have valid names exactly if the containers do. -/
theorem isValidIdentifier_classOf_iff (d : Document) (s : Settings) :
    (∀ name, ClassOf d s name → isValidIdentifier name = true) ↔
      ∀ o ∈ allowed s.filter d.operations, hasQuery o = true →
        isValidIdentifier (containerName o) = true := by
  constructor
  · intro hall o ho hquery
    exact hall _ (.container ho hquery)
  · intro hall name hname
    cases hname with
    | whole hmem htarget hwhole =>
        rw [eq_modelName_of_ofComponent (Or.inl htarget)]
        exact isValidIdentifier_modelName _
    | half hmem htarget hdirected v =>
        rw [eq_modelName_of_ofComponent (Or.inl htarget)]
        exact isValidIdentifier_nameOf (isValidIdentifier_modelName _) v
    | container ho hquery => exact hall _ ho hquery

/-- All class names of a plan are valid identifiers exactly if no container is named by a function
whose name starts with a digit behind its underscores, and every field with an enumeration of its
own is spelled, together with its class, in characters of identifiers and with no digit in front. -/
theorem isValidIdentifier_classNames_iff (d : Document) (s : Settings) (p : TypedClient.Plan)
    (h : build d s = .ok p) :
    (∀ name ∈ p.models.map Model.name ++ p.enums.map Enumeration.name,
        isValidIdentifier name = true) ↔
      (∀ o ∈ allowed s.filter d.operations, hasQuery o = true →
        startsWithDigit (functionNameOf o) = false) ∧
      ∀ owner field, FieldOf d s owner field →
        Naming.enumName owner field ∈ p.enums.map Enumeration.name →
        IsStem (Naming.typeWords (owner ++ "_" ++ field)).toList := by
  simp only [List.mem_append, or_imp, forall_and, mem_modelNames_iff h,
    isValidIdentifier_classOf_iff, isValidIdentifier_containerName_iff]
  refine and_congr_right fun _ => ?_
  constructor
  · intro hall owner field _ hmem
    exact (isValidIdentifier_enumName_iff owner field).1 (hall _ hmem)
  · intro hall name hname
    obtain ⟨e, he, rfl⟩ := List.mem_map.1 hname
    rcases exists_source_of_build h he with
      ⟨component, schema, -, htarget⟩ | ⟨owner, field, hfield, heq⟩
    · rw [eq_modelName_of_ofComponent (Or.inr htarget)]
      exact isValidIdentifier_modelName component
    · rw [heq] at hname ⊢
      exact (isValidIdentifier_enumName_iff owner field).2 (hall owner field hfield hname)

theorem isValidIdentifier_classNames_iff_shop : ∃ p, build shop {} = .ok p ∧
    ∀ name ∈ p.models.map Model.name ++ p.enums.map Enumeration.name,
      isValidIdentifier name = true := by
  have hbuilds : builds shop {} (fun p =>
      p.enums.map Enumeration.name == ["State", "LineUnitEnum"]) = true := by decide +kernel
  obtain ⟨p, hp, henums⟩ := exists_of_builds hbuilds
  refine ⟨p, hp, (isValidIdentifier_classNames_iff shop {} p hp).2 ⟨by decide +kernel, ?_⟩⟩
  intro owner field _ hmem
  have hvalid : ∀ name ∈ ["State", "LineUnitEnum"], isValidIdentifier name = true := by decide
  rw [eq_of_beq henums] at hmem
  exact (isValidIdentifier_enumName_iff owner field).1 (hvalid _ hmem)

/-- An object with a field whose name has a hyphen and whose values are listed in place. -/
def hyphenatedField : Json := .object [
  ("openapi", .string "3.0.0"),
  ("paths", .object []),
  ("components", .object [("schemas", .object [("Pet", .object [
    ("type", .string "object"),
    ("properties", .object [("x-status", .object [
      ("type", .string "string"),
      ("enum", .array [.string "a"])])])])])])]

theorem classNames_hyphenatedField :
    ∃ d p, Document.ofJson hyphenatedField = .ok d ∧ build d {} = .ok p ∧
      p.enums.map Enumeration.name = ["PetX-StatusEnum"] ∧
      ¬∀ name ∈ p.models.map Model.name ++ p.enums.map Enumeration.name,
        isValidIdentifier name = true := by
  have hgenerates : generates hyphenatedField {} (fun p =>
      p.enums.map Enumeration.name == ["PetX-StatusEnum"]) = true := by decide +kernel
  obtain ⟨d, p, hd, hp, hnames⟩ := exists_of_generates hgenerates
  have hnames := eq_of_beq hnames
  refine ⟨d, p, hd, hp, hnames, ?_⟩
  rw [hnames]
  intro hall
  exact absurd (hall "PetX-StatusEnum" (by simp)) (by decide)

end TypedClient.Plan
