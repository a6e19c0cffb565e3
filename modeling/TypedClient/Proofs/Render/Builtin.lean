import TypedClient.Proofs.Template.Reading
import TypedClient.Render.Artifacts

/-!
# The library of built-in templates

Every built-in template is readable, part by part, so the library that is read from their texts
holds the templates themselves (`ofSet_builtinSet`).
-/

namespace TypedClient.Render

open Client (Mode)
open Template

/-! ## Parts -/

section Parts

variable {name key : String} {cs ds : List Char} {body : List Node}

theorem readable_put (hname : name = String.ofList cs) (h : isVariable cs = true) :
    (put name).Readable := readable_place (isReference_variable hname h)

theorem readable_putMember (hname : name = String.ofList cs) (hkey : key = String.ofList ds)
    (h : isName cs = true ∧ isName ds = true) : (putMember name key).Readable :=
  readable_place (isReference_member hname hkey h)

theorem readable_onlyIf (hname : name = String.ofList cs) (h : isVariable cs = true)
    (hbody : ReadableNodes body) : (onlyIf (var name) body).Readable :=
  readable_if (isReference_variable hname h) hbody trivial

theorem readable_onlyIfMember (hname : name = String.ofList cs) (hkey : key = String.ofList ds)
    (h : isName cs = true ∧ isName ds = true) (hbody : ReadableNodes body) :
    (onlyIf (member name key) body).Readable :=
  readable_if (isReference_member hname hkey h) hbody trivial

theorem readable_forEach {loop : String} {ls : List Char} (hloop : loop = String.ofList ls)
    (hls : isName ls = true) (hname : name = String.ofList cs) (h : isVariable cs = true)
    (hbody : ReadableNodes body) : (forEach loop (var name) body).Readable :=
  readable_for hloop hls (isReference_variable hname h) hbody trivial

theorem readable_forEachMember {loop : String} {ls : List Char} (hloop : loop = String.ofList ls)
    (hls : isName ls = true) (hname : name = String.ofList cs) (hkey : key = String.ofList ds)
    (h : isName cs = true ∧ isName ds = true) (hbody : ReadableNodes body) :
    (forEach loop (member name key) body).Readable :=
  readable_for hloop hls (isReference_member hname hkey h) hbody trivial

end Parts

/-! ## Macros -/

theorem readable_headerMacro : headerMacro.Readable := by
  refine ⟨⟨by decide, by decide, rfl⟩, ⟨?_, ?_, ?_, trivial⟩, by decide, by decide, rfl⟩
  · exact readable_text rfl (by decide)
  · exact readable_put rfl (by decide)
  · exact readable_text rfl (by decide)

theorem readable_signatureMacro : signatureMacro.Readable := by
  refine ⟨⟨by decide, by decide, rfl⟩, ⟨?_, ?_, ?_, ?_, ?_, ?_, ?_, ?_, ?_, trivial⟩,
    by decide, by decide, rfl⟩
  · exact readable_put rfl (by decide)
  · exact readable_text rfl (by decide)
  · exact readable_putMember rfl rfl (by decide)
  · exact readable_text rfl (by decide)
  · refine readable_forEachMember rfl (by decide) rfl rfl (by decide) ⟨?_, ?_, ?_, trivial⟩
    · exact readable_text rfl (by decide)
    · exact readable_put rfl (by decide)
    · exact readable_text rfl (by decide)
  · exact readable_text rfl (by decide)
  · exact readable_putMember rfl rfl (by decide)
  · exact readable_text rfl (by decide)
  · refine readable_onlyIfMember rfl rfl (by decide) ⟨?_, ?_, ?_, trivial⟩
    · exact readable_text rfl (by decide)
    · exact readable_putMember rfl rfl (by decide)
    · exact readable_text rfl (by decide)

theorem readable_argumentsMacro : argumentsMacro.Readable := by
  refine ⟨⟨by decide, by decide, rfl⟩, ⟨?_, ?_, trivial⟩, by decide, by decide, rfl⟩
  · refine readable_onlyIfMember rfl rfl (by decide) ⟨?_, ?_, ?_, trivial⟩
    · exact readable_put rfl (by decide)
    · exact readable_putMember rfl rfl (by decide)
    · exact readable_text rfl (by decide)
  · refine readable_onlyIfMember rfl rfl (by decide) ⟨?_, ?_, ?_, trivial⟩
    · exact readable_put rfl (by decide)
    · exact readable_putMember rfl rfl (by decide)
    · exact readable_text rfl (by decide)

theorem readable_queryMacro : queryMacro.Readable := by
  refine ⟨⟨by decide, by decide, rfl⟩, ⟨?_, ?_, ?_, trivial⟩, by decide, by decide, rfl⟩
  · iterate 3 refine readable_text_append ?_ (readable_text rfl (by decide))
    exact readable_text rfl (by decide)
  · exact readable_put rfl (by decide)
  · iterate 9 refine readable_text_append ?_ (readable_text rfl (by decide))
    exact readable_text rfl (by decide)

theorem readable_macrosTemplate : macrosTemplate.Readable := by
  have hgap : (Item.node (.text "\n\n")).Readable := readable_text rfl (by decide)
  have hend : (Item.node (.text "\n")).Readable := readable_text rfl (by decide)
  refine ⟨?_, by decide +kernel⟩
  simp only [macrosTemplate, List.forall_mem_cons]
  exact ⟨readable_headerMacro, hgap, readable_signatureMacro, hgap, readable_argumentsMacro, hgap,
    readable_queryMacro, hend, List.forall_mem_nil _⟩

/-! ## Models module -/

theorem readable_loadMacros : loadMacros.Readable := ⟨by decide, by decide, rfl⟩

theorem readable_header :
    (Item.node (callMacro "header" [("generator", var "generator")])).Readable :=
  ⟨by decide, by decide, rfl⟩

theorem readable_lines {name : String} {cs : List Char} (hname : name = String.ofList cs)
    (h : isVariable cs = true) :
    (forEach "line" (var name) [put "line", .text "\n"]).Readable :=
  readable_forEach rfl (by decide) hname h
    ⟨readable_put rfl (by decide), readable_text rfl (by decide), trivial⟩

theorem readable_enumPart : enumPart.Readable := by
  refine readable_forEach rfl (by decide) rfl (by decide) ⟨?_, ?_, ?_, ?_, ?_, ?_, trivial⟩
  · exact readable_text rfl (by decide)
  · exact readable_putMember rfl rfl (by decide)
  · exact readable_text rfl (by decide)
  · exact readable_putMember rfl rfl (by decide)
  · exact readable_text rfl (by decide)
  · refine readable_forEachMember rfl (by decide) rfl rfl (by decide) ⟨?_, ?_, ?_, ?_, ?_, trivial⟩
    · exact readable_text rfl (by decide)
    · exact readable_putMember rfl rfl (by decide)
    · exact readable_text rfl (by decide)
    · exact readable_putMember rfl rfl (by decide)
    · exact readable_text rfl (by decide)

theorem readable_checkPart : ReadableNodes checkPart := by
  refine ⟨?_, ?_, ?_, ?_, ?_, ?_, ?_, trivial⟩
  · exact readable_text rfl (by decide)
  · exact readable_putMember rfl rfl (by decide)
  · exact readable_text rfl (by decide)
  · exact readable_putMember rfl rfl (by decide)
  · exact readable_text rfl (by decide)
  · exact readable_putMember rfl rfl (by decide)
  · exact readable_text rfl (by decide)

theorem readable_modelPart : modelPart.Readable := by
  refine readable_forEach rfl (by decide) rfl (by decide) ⟨?_, ?_, ?_, ?_, ?_, ?_, ?_, trivial⟩
  · exact readable_text rfl (by decide)
  · exact readable_putMember rfl rfl (by decide)
  · exact readable_text rfl (by decide)
  · refine readable_forEachMember rfl (by decide) rfl rfl (by decide) ⟨?_, ?_, ?_, trivial⟩
    · exact readable_text rfl (by decide)
    · exact readable_put rfl (by decide)
    · exact readable_text rfl (by decide)
  · exact readable_ifNot (isReference_member rfl rfl (by decide))
      ⟨readable_text rfl (by decide), trivial⟩ trivial
  · exact readable_onlyIfMember rfl rfl (by decide) ⟨readable_text rfl (by decide), trivial⟩
  · exact readable_forEachMember rfl (by decide) rfl rfl (by decide) readable_checkPart

theorem readable_forwardPart : forwardPart.Readable := by
  refine readable_onlyIf rfl (by decide) ⟨?_, ?_, trivial⟩
  · exact readable_text rfl (by decide)
  · exact readable_forEach rfl (by decide) rfl (by decide)
      ⟨readable_put rfl (by decide), readable_text rfl (by decide), trivial⟩

theorem readable_modelsTemplate : modelsTemplate.Readable := by
  have hgap : (Item.node (.text "\n\n")).Readable := readable_text rfl (by decide)
  have hend : (Item.node (.text "\n")).Readable := readable_text rfl (by decide)
  have hbreak : (Item.node (onlyIf (var "models_stdlib_imports") [.text "\n"])).Readable :=
    readable_onlyIf rfl (by decide) ⟨hend, trivial⟩
  refine ⟨?_, by decide +kernel⟩
  simp only [modelsTemplate, List.forall_mem_cons]
  exact ⟨readable_loadMacros, readable_header, hgap, readable_lines rfl (by decide), hbreak,
    readable_lines rfl (by decide), readable_enumPart, readable_modelPart, readable_forwardPart,
    hend, List.forall_mem_nil _⟩

/-! ## Client modules -/

theorem readable_clientHead : ∀ i ∈ clientHead, i.Readable := by
  simp only [clientHead, List.forall_mem_cons]
  refine ⟨readable_loadMacros, readable_header, ?_, ?_, ?_, ?_, ?_, ?_, ?_, ?_, ?_, ?_,
    List.forall_mem_nil _⟩
  · exact readable_text rfl (by decide)
  · exact readable_lines rfl (by decide)
  · exact readable_text rfl (by decide)
  · exact readable_put rfl (by decide)
  · exact readable_text rfl (by decide)
  · refine readable_onlyIf rfl (by decide) ⟨?_, ?_, ?_, ?_, ?_, trivial⟩
    · exact readable_text rfl (by decide)
    · exact readable_put rfl (by decide)
    · exact readable_text rfl (by decide)
    · refine readable_forEach rfl (by decide) rfl (by decide) ⟨?_, ?_, ?_, trivial⟩
      · exact readable_text rfl (by decide)
      · exact readable_put rfl (by decide)
      · exact readable_text rfl (by decide)
    · exact readable_text rfl (by decide)
  · exact readable_text rfl (by decide)
  · exact readable_put rfl (by decide)
  · exact readable_text rfl (by decide)
  · exact readable_onlyIf rfl (by decide) ⟨⟨by decide, by decide, rfl⟩, trivial⟩

theorem readable_methodPart {indent : String} {cs : List Char} (hindent : indent = String.ofList cs)
    (h : cs ≠ [] ∧ hasOpening cs = false) : (methodPart indent).Readable := by
  refine readable_if (isReference_member rfl rfl (by decide)) ⟨?_, ?_, trivial⟩
    ⟨?_, ?_, ?_, trivial⟩
  · exact readable_putMember rfl rfl (by decide)
  · exact readable_text rfl (by decide)
  · refine readable_text_append (readable_text_append ?_ (readable_text hindent h)) ?_
    · exact readable_text rfl (by decide)
    · exact readable_text rfl (by decide)
  · exact ⟨by decide, by decide, rfl⟩
  · exact readable_text rfl (by decide)

theorem readable_blockingPart : ReadableNodes blockingPart := by
  refine ⟨?_, ?_, ?_, ?_, ?_, ?_, ?_, ?_, ?_, ?_, trivial⟩
  · exact readable_text rfl (by decide)
  · exact ⟨by decide, by decide, rfl⟩
  · exact readable_text rfl (by decide)
  · exact readable_putMember rfl rfl (by decide)
  · iterate 2 refine readable_text_append ?_ (readable_text rfl (by decide))
    exact readable_text rfl (by decide)
  · exact readable_methodPart rfl (by decide)
  · exact readable_text rfl (by decide)
  · exact ⟨by decide, by decide, rfl⟩
  · iterate 3 refine readable_text_append ?_ (readable_text rfl (by decide))
    exact readable_text rfl (by decide)
  · refine readable_if (isReference_member rfl rfl (by decide)) ⟨?_, ?_, ?_, trivial⟩ ⟨?_, trivial⟩
    · exact readable_text rfl (by decide)
    · exact readable_putMember rfl rfl (by decide)
    · exact readable_text rfl (by decide)
    · exact readable_text rfl (by decide)

theorem readable_awaitingPart : ReadableNodes awaitingPart := by
  refine ⟨?_, ?_, ?_, ?_, ?_, ?_, ?_, ?_, ?_, ?_, trivial⟩
  · exact readable_text rfl (by decide)
  · exact ⟨by decide, by decide, rfl⟩
  · exact readable_text rfl (by decide)
  · exact readable_putMember rfl rfl (by decide)
  · iterate 2 refine readable_text_append ?_ (readable_text rfl (by decide))
    exact readable_text rfl (by decide)
  · exact readable_methodPart rfl (by decide)
  · exact readable_text rfl (by decide)
  · exact ⟨by decide, by decide, rfl⟩
  · iterate 2 refine readable_text_append ?_ (readable_text rfl (by decide))
    exact readable_text rfl (by decide)
  · refine readable_if (isReference_member rfl rfl (by decide)) ⟨?_, ?_, ?_, trivial⟩ ⟨?_, trivial⟩
    · exact readable_text rfl (by decide)
    · exact readable_putMember rfl rfl (by decide)
    · exact readable_text rfl (by decide)
    · exact readable_text rfl (by decide)

theorem readable_clientTemplate {functionPart : List Node} (h : ReadableNodes functionPart)
    (hseparated : separated (clientTemplate functionPart).writtenPieces = true) :
    (clientTemplate functionPart).Readable := by
  have hoperations : (Item.node (forEach "op" (var "operations") functionPart)).Readable :=
    readable_forEach rfl (by decide) rfl (by decide) h
  have hend : (Item.node (.text "\n")).Readable := readable_text rfl (by decide)
  refine ⟨?_, hseparated⟩
  change ∀ i ∈ clientHead ++ _, i.Readable
  rw [List.forall_mem_append, List.forall_mem_cons, List.forall_mem_singleton]
  exact ⟨readable_clientHead, hoperations, hend⟩

/-! ## The library -/

theorem readable_of_mem_builtinTemplates : ∀ entry ∈ builtinTemplates, entry.2.Readable := by
  simp only [builtinTemplates, List.forall_mem_cons]
  exact ⟨readable_macrosTemplate, readable_modelsTemplate,
    readable_clientTemplate readable_blockingPart (by decide +kernel),
    readable_clientTemplate readable_awaitingPart (by decide +kernel), List.forall_mem_nil _⟩

/-- The library of built-in templates. -/
def builtinLibrary : Library := ⟨builtinTemplates⟩

/-- The library that is read from the built-in texts holds the built-in templates. -/
theorem ofSet_builtinSet : Library.ofSet builtinSet = .ok builtinLibrary := by
  have hread : ∀ entries : List (String × Template), (∀ entry ∈ entries, entry.2.Readable) →
      List.mapM Library.readNamed (entries.map fun entry => (entry.1, entry.2.written)) =
        some entries := by
    intro entries h
    induction entries with
    | nil => rfl
    | cons entry entries ih =>
        rw [List.forall_mem_cons] at h
        rw [List.map_cons, List.mapM_cons, ih h.2, Library.readNamed, ofText?_written h.1]
        rfl
  have hset : builtinSet = builtinTemplates.map fun entry => (entry.1, entry.2.written) := rfl
  have hall : Library.readAll builtinSet = some builtinLibrary := by
    rw [Library.readAll, hset, hread _ readable_of_mem_builtinTemplates]
    rfl
  have himports : builtinLibrary.missingImport? = none := by decide +kernel
  rw [Library.ofSet, hall]
  simp only [himports]

end TypedClient.Render
