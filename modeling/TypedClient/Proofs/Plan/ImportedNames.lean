import TypedClient.Proofs.Lexical.Capitals
import TypedClient.Proofs.Plan.Classes
import TypedClient.Proofs.Plan.Enumerations

/-!
# Class names and imported names

The module of the models imports a handful of names and uses them behind its classes, so a class
that is called like one of them takes its place. Nothing keeps class names away from them as it
keeps field names. A name that ends in `Query`, `Request` or `Response` is none of them, so what is
left are the components whose class has their own name, and the enumeration of a field that is
written in underscores and spaces alone (`not_mem_modelSymbols_classNames_iff`).
-/

namespace TypedClient.Naming

open Text

/-! ## Blank names -/

/-- Whether the text has nothing but underscores and spaces. -/
def isBlankName (name : String) : Bool := name.toList.all fun c => c == '_' || c == ' '

/-- The pieces hold all characters but the breaks. -/
theorem flatten_splitAt (isBreak : Char → Bool) (cs : List Char) :
    (splitAt isBreak cs).flatten = cs.filter fun c => !isBreak c := by
  induction cs with
  | nil => rfl
  | cons c cs ih =>
      unfold splitAt
      split
      · next hbreak => simp [hbreak, ih]
      · next hbreak =>
          split
          · next hnil => exact absurd hnil (splitAt_ne_nil isBreak cs)
          · next heq =>
              rw [heq] at ih
              simp [hbreak, ← ih]

/-- Only a blank text gives an empty class name. -/
theorem typeWords_eq_empty {raw : String} : typeWords raw = "" ↔ isBlankName raw = true := by
  have hpieces : typeCase raw.toList = [] ↔
      (splitAt (fun c => c == '_' || c == ' ') raw.toList).flatten = [] := by
    simp only [typeCase, List.flatMap_eq_nil_iff, List.mem_filter, typeSegment_eq_nil,
      List.flatten_eq_nil_iff]
    grind
  rw [typeWords, ← String.toList_inj, String.toList_ofList, String.toList_empty, hpieces,
    flatten_splitAt, List.filter_eq_nil_iff, isBlankName, List.all_eq_true]
  simp only [Bool.not_eq_true, Bool.not_eq_false']

end TypedClient.Naming

namespace TypedClient.Plan

open Client (Settings)
open OpenApi (Document Operation Schema)
open Lexical (modelSymbols)

/-! ## Names of single classes -/

theorem append_not_mem_modelSymbols {suffix : String}
    (h : ∀ symbol ∈ modelSymbols, ¬suffix.toList <:+ symbol.toList) (base : String) :
    base ++ suffix ∉ modelSymbols := by
  intro hmem
  apply h _ hmem
  rw [String.toList_append]
  exact List.suffix_append _ _

theorem nameOf_not_mem_modelSymbols (v : Variant) (name : String) :
    v.nameOf name ∉ modelSymbols := by
  unfold Variant.nameOf
  exact append_not_mem_modelSymbols (by cases v <;> decide) name

theorem containerName_not_mem_modelSymbols (o : Operation) : containerName o ∉ modelSymbols :=
  append_not_mem_modelSymbols (by decide) _

/-- The only imported name that ends in `Enum` is `Enum` itself. -/
theorem enumName_mem_modelSymbols {owner field : String} :
    Naming.enumName owner field ∈ modelSymbols ↔
      Naming.isBlankName (owner ++ "_" ++ field) = true := by
  rw [← Naming.typeWords_eq_empty, Naming.enumName]
  constructor
  · intro hmem
    have hends : ∀ symbol ∈ modelSymbols, "Enum".toList <:+ symbol.toList → symbol = "Enum" := by
      decide
    have heq := hends _ hmem (by simp [String.toList_append])
    exact (String.append_left_inj "Enum").1 (heq.trans String.empty_append.symm)
  · intro hempty
    rw [hempty]
    decide

/-! ## Names of all classes -/

/-- The names of the components that stand for a class of their own name: enumerations, and objects
that are not split. -/
def Components.ownNames (components : Components) : List String :=
  components.filterMap fun (component, s) =>
    match Target.ofComponent component s with
    | .model name => if components.isDirected s then none else some name
    | .enumeration name => some name
    | .aliasOf _ => none

theorem mem_ownNames {components : Components} {name : String} : name ∈ components.ownNames ↔
    (∃ component s, (component, s) ∈ components ∧ Target.ofComponent component s = .model name ∧
      components.isDirected s = false) ∨ components.Has (.enumeration name) := by
  unfold Components.ownNames
  rw [List.mem_filterMap]
  constructor
  · rintro ⟨⟨component, s⟩, hmem, h⟩
    cases htarget : Target.ofComponent component s with
    | model name' =>
        simp only [htarget, Option.ite_none_left_eq_some, Bool.not_eq_true, Option.some.injEq] at h
        obtain ⟨hwhole, rfl⟩ := h
        exact Or.inl ⟨component, s, hmem, htarget, hwhole⟩
    | enumeration name' =>
        simp only [htarget, Option.some.injEq] at h
        subst h
        exact Or.inr ⟨component, s, hmem, htarget⟩
    | aliasOf _ => simp [htarget] at h
  · rintro (⟨component, s, hmem, htarget, hwhole⟩ | ⟨component, s, hmem, htarget⟩)
    · exact ⟨(component, s), hmem, by simp [htarget, hwhole]⟩
    · exact ⟨(component, s), hmem, by simp [htarget]⟩

/-- No class of a plan has the name of a symbol that the module of the models uses, exactly if no
enumeration and no object that is not split is named like one, and no field with an enumeration of
its own is written, together with its class, in underscores and spaces alone. -/
theorem not_mem_modelSymbols_classNames_iff (d : Document) (s : Settings) (p : TypedClient.Plan)
    (h : build d s = .ok p) :
    (∀ name ∈ p.models.map Model.name ++ p.enums.map Enumeration.name, name ∉ modelSymbols) ↔
      (∀ name ∈ Components.ownNames d.schemas, name ∉ modelSymbols) ∧
      ∀ owner field, FieldOf d s owner field →
        Naming.enumName owner field ∈ p.enums.map Enumeration.name →
        Naming.isBlankName (owner ++ "_" ++ field) = false := by
  obtain ⟨base, made, n, hdrafted, -, -, henums, -⟩ := build_eq_ok h
  simp only [List.mem_append, or_imp, forall_and, mem_modelNames_iff h]
  constructor
  · rintro ⟨hall, hallEnums⟩
    refine ⟨?_, ?_⟩
    · intro name hname
      rcases mem_ownNames.1 hname with ⟨component, schema, hmem, htarget, hwhole⟩ | henum
      · exact hall name (.whole hmem htarget hwhole)
      · exact hallEnums name (henums ▸ hdrafted.modelled.mem_enums name henum)
    · intro owner field _ hmem
      have hnot := hallEnums _ hmem
      rw [enumName_mem_modelSymbols] at hnot
      simpa using hnot
  · rintro ⟨hown, hfields⟩
    refine ⟨?_, ?_⟩
    · intro name hname
      cases hname with
      | whole hmem htarget hwhole =>
          exact hown name (mem_ownNames.2 (Or.inl ⟨_, _, hmem, htarget, hwhole⟩))
      | half _ _ _ v => exact nameOf_not_mem_modelSymbols v _
      | container _ _ => exact containerName_not_mem_modelSymbols _
    · intro name hname
      obtain ⟨e, he, rfl⟩ := List.mem_map.1 hname
      rcases exists_source_of_build h he with hcomponent | ⟨owner, field, hfield, heq⟩
      · exact hown e.name (mem_ownNames.2 (Or.inr hcomponent))
      · rw [heq] at hname ⊢
        rw [enumName_mem_modelSymbols, hfields owner field hfield hname]
        exact Bool.false_ne_true

theorem not_mem_modelSymbols_classNames_iff_shop : ∃ p, build shop {} = .ok p ∧
    ∀ name ∈ p.models.map Model.name ++ p.enums.map Enumeration.name, name ∉ modelSymbols := by
  have hbuilds : builds shop {} (fun p =>
      p.enums.map Enumeration.name == ["State", "LineUnitEnum"]) = true := by decide +kernel
  obtain ⟨p, hp, henums⟩ := exists_of_builds hbuilds
  refine ⟨p, hp, (not_mem_modelSymbols_classNames_iff shop {} p hp).2 ⟨by decide +kernel, ?_⟩⟩
  intro owner field _ hmem
  have hsymbols : ∀ name ∈ ["State", "LineUnitEnum"], name ∉ modelSymbols := by decide
  rw [eq_of_beq henums] at hmem
  have hnot := hsymbols _ hmem
  rw [enumName_mem_modelSymbols] at hnot
  simpa using hnot

/-- An object that is called `Optional`, and one with a property that may be left out. -/
def optionalComponent : Json := .object [
  ("openapi", .string "3.0.0"),
  ("paths", .object []),
  ("components", .object [("schemas", .object [
    ("Optional", .object [("type", .string "object")]),
    ("Pet", .object [
      ("type", .string "object"),
      ("properties", .object [("name", .object [("type", .string "string")])])])])])]

theorem classNames_optionalComponent :
    ∃ d p, Document.ofJson optionalComponent = .ok d ∧ build d {} = .ok p ∧
      p.models.map Model.name = ["Optional", "Pet"] ∧ p.modelImports.optional = true ∧
      ¬∀ name ∈ p.models.map Model.name ++ p.enums.map Enumeration.name, name ∉ modelSymbols := by
  have hgenerates : generates optionalComponent {} (fun p =>
      p.models.map Model.name == ["Optional", "Pet"] && p.modelImports.optional) = true := by
    decide +kernel
  obtain ⟨d, p, hd, hp, htest⟩ := exists_of_generates hgenerates
  obtain ⟨hnames, hoptional⟩ := Bool.and_eq_true_iff.1 htest
  have hnames := eq_of_beq hnames
  refine ⟨d, p, hd, hp, hnames, hoptional, ?_⟩
  rw [hnames]
  intro hall
  exact absurd (by decide : "Optional" ∈ modelSymbols) (hall "Optional" (by simp))

end TypedClient.Plan
