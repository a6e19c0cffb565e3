import TypedClient.Proofs.Render.ClientLayout
import TypedClient.Proofs.Render.Imports

/-!
# Outline of the client module

Nothing that a document says adds a line of code to the client module or takes one away. The outline
of the text that is rendered is the one that is laid (`outerLines_finished`), and in it every line
that begins a function belongs to a call or to the functions for queries
(`filter_isDefinition_clientOutline`), while the others are accounted for one by one
(`mem_clientOutline`). So it is in the client module of every plan that is built
(`outlined_of_artifacts`).
-/

namespace TypedClient.Render

open Client (Mode Settings)
open Files (FileTree)
open OpenApi (Document)
open Plan
open Template
open Text

/-! ## Lines that begin functions -/

/-- Whether the line begins a function. -/
def isDefinition (line : List Char) : Bool :=
  "def ".toList.isPrefixOf line || "async def ".toList.isPrefixOf line

theorem isOuter_of_isDefinition {line : List Char} (h : isDefinition line = true) :
    isOuter line = true := by
  rw [isDefinition, Bool.or_eq_true, List.isPrefixOf_iff_prefix, List.isPrefixOf_iff_prefix] at h
  rcases h with ⟨rest, rfl⟩ | ⟨rest, rfl⟩
  · exact isOuter_append (by decide) rest
  · exact isOuter_append (by decide) rest

theorem isDefinition_definitionLine (mode : Mode) (c : Call) :
    isDefinition (definitionLine mode c).toList = true := by
  rw [definitionLine, String.toList_append, String.toList_append, String.toList_append]
  cases mode <;> rfl

theorem isDefinition_resultLine (c : Call) : isDefinition (resultLine c).toList = false := by
  rw [resultLine, String.toList_append, String.toList_append]
  rfl

theorem isDefinition_baseUrlLine (p : TypedClient.Plan) :
    isDefinition (baseUrlLine p).toList = false := by
  rw [baseUrlLine, String.toList_append]
  rfl

theorem isDefinition_of_isImport {line : List Char} (h : isImport line = true) :
    isDefinition line = false := by
  rw [isImport, Bool.or_eq_true, List.isPrefixOf_iff_prefix, List.isPrefixOf_iff_prefix] at h
  rcases h with ⟨rest, rfl⟩ | ⟨rest, rfl⟩ <;> rfl

/-! ## Lines of the outline -/

/-- The lines that import. -/
def importLines (p : TypedClient.Plan) (s : Settings) : List String :=
  clientLines p.clientImports ++ [libraryLine p.mode, schemaLine s]

/-- The lines that begin a function. -/
def definitionLines (p : TypedClient.Plan) : List String :=
  (if p.calls.any fun c => c.queryModel.isSome then queryLines else []) ++
    p.calls.map (definitionLine p.mode)

section Outline

variable {p : TypedClient.Plan} {s : Settings}

theorem isImport_of_mem_importLines : ∀ line ∈ importLines p s, isImport line.toList = true := by
  have hlibrary : isImport (libraryLine p.mode).toList = true := by cases p.mode <;> rfl
  have hschema : isImport (schemaLine s).toList = true := by
    rw [schemaLine, String.toList_append, String.toList_append]
    rfl
  unfold importLines
  rw [List.forall_mem_append, List.forall_mem_cons, List.forall_mem_singleton]
  exact ⟨fun line hline => (isImportLine_of_mem_clientLines _ line hline).isImport, hlibrary,
    hschema⟩

theorem mem_modelLines {line : String} (h : line ∈ modelLines p s) :
    line ∈ importLines p s ∨ line = ")" := by
  unfold modelLines at h
  split at h
  · cases h
  · rcases List.mem_cons.1 h with rfl | h
    · exact Or.inl (by simp [importLines])
    · exact Or.inr (List.mem_singleton.1 h)

/-- Every line of the outline that begins no function is accounted for. -/
theorem mem_clientOutline {line : String} (h : line ∈ clientOutline p s)
    (hdefinition : isDefinition line.toList = false) :
    line = headerLine ∨ line ∈ importLines p s ∨ line = ")" ∨ line = baseUrlLine p ∨
      ∃ c ∈ p.calls, line = resultLine c := by
  have hqueries : ∀ line ∈ queryLines, isDefinition line.toList = true := by decide
  simp only [clientOutline, List.mem_cons, List.mem_append, List.mem_flatMap] at h
  rcases h with h | h | h | h | h | h | ⟨c, hc, h⟩
  · exact Or.inl h
  · exact Or.inr (Or.inl (List.mem_append_left _ h))
  · exact Or.inr (Or.inl (by simp [importLines, h]))
  · rcases mem_modelLines h with h | h
    · exact Or.inr (Or.inl h)
    · exact Or.inr (Or.inr (Or.inl h))
  · exact Or.inr (Or.inr (Or.inr (Or.inl h)))
  · split at h
    · rw [hqueries line h] at hdefinition
      cases hdefinition
    · cases h
  · rcases List.mem_cons.1 h with rfl | h
    · rw [isDefinition_definitionLine] at hdefinition
      cases hdefinition
    · exact Or.inr (Or.inr (Or.inr (Or.inr ⟨c, hc, List.mem_singleton.1 h⟩)))

theorem filter_isDefinition_modelLines :
    (modelLines p s).filter (fun line => isDefinition line.toList) = [] := by
  rw [List.filter_eq_nil_iff]
  intro line hline
  rcases mem_modelLines hline with h | rfl
  · rw [isDefinition_of_isImport (isImport_of_mem_importLines line h)]
    exact Bool.false_ne_true
  · decide

theorem filter_isDefinition_clientLines :
    (clientLines p.clientImports).filter (fun line => isDefinition line.toList) = [] := by
  rw [List.filter_eq_nil_iff]
  intro line hline
  rw [isDefinition_of_isImport (isImportLine_of_mem_clientLines _ line hline).isImport]
  exact Bool.false_ne_true

/-- The lines of the outline that begin functions: one for each call, and those of the functions
that queries need. -/
theorem filter_isDefinition_clientOutline
    (hquery : p.clientImports.query = p.calls.any fun c => c.queryModel.isSome) :
    (clientOutline p s).filter (fun line => isDefinition line.toList) = definitionLines p := by
  have hheader : isDefinition headerLine.toList = false := by decide
  have hlibrary : isDefinition (libraryLine p.mode).toList = false := by cases p.mode <;> rfl
  have hqueries : queryLines.filter (fun line => isDefinition line.toList) = queryLines := by decide
  have hbase := isDefinition_baseUrlLine p
  have hcall : ∀ c : Call, (signatureLines p.mode c).filter (fun line => isDefinition line.toList) =
      [definitionLine p.mode c] := by
    intro c
    simp [signatureLines, isDefinition_definitionLine, isDefinition_resultLine]
  have hcalls : (p.calls.flatMap (signatureLines p.mode)).filter
      (fun line => isDefinition line.toList) = p.calls.map (definitionLine p.mode) := by
    simp only [List.filter_flatMap, hcall, List.map_eq_flatMap]
  unfold clientOutline definitionLines
  rw [hquery]
  simp only [List.filter_cons, List.filter_append, hheader, hlibrary, hbase, Bool.false_eq_true,
    if_false, filter_isDefinition_clientLines, filter_isDefinition_modelLines, List.nil_append,
    hcalls]
  split
  · rw [hqueries]
  · rfl

/-- Every line of the outline ends in other text than white space. -/
theorem trimEnd_of_mem_clientOutline {line : String} (h : line ∈ clientOutline p s) :
    trimEnd line.toList = line.toList := by
  have happend : ∀ {u t : String}, t.toList ≠ [] ∧ trimEnd t.toList = t.toList →
      trimEnd (u ++ t).toList = (u ++ t).toList := by
    rintro u t ⟨hne, ht⟩
    rw [String.toList_append]
    exact trimEnd_append hne ht _
  have hqueries : ∀ line ∈ queryLines, trimEnd line.toList = line.toList := by decide
  simp only [clientOutline, List.mem_cons, List.mem_append, List.mem_flatMap] at h
  rcases h with rfl | h | rfl | h | rfl | h | ⟨c, -, h⟩
  · decide
  · exact (isImportLine_of_mem_clientLines _ line h).trimEnd_eq
  · cases p.mode <;> decide
  · unfold modelLines at h
    split at h
    · cases h
    · rcases List.mem_cons.1 h with rfl | h
      · exact happend (by decide)
      · rw [List.mem_singleton.1 h]
        decide
  · rw [baseUrlLine, String.toList_append, Lexical.toList_quote, ← List.append_assoc]
    exact trimEnd_append (by decide) (by decide) _
  · split at h
    · exact hqueries line h
    · cases h
  · rcases List.mem_cons.1 h with rfl | h
    · exact happend (by decide)
    · rw [List.mem_singleton.1 h]
      exact happend (by decide)

end Outline

/-! ## The client module -/

theorem outerLines_finished {cs : List Char} {found : List String}
    (h : scan .fresh cs = (found.map String.toList, .fresh))
    (hends : ∀ line ∈ found, trimEnd line.toList = line.toList) :
    outerLines (finished cs).toList = found.map String.toList := by
  have hall : outerLines cs = found.map String.toList := by
    rw [outerLines_eq, h]
    exact List.append_nil _
  rw [finished, String.toList_ofList, outerLines_trimEnd, hall]
  rw [hall]
  exact List.forall_mem_map.2 hends

/-- The outline of a text is that of the client module. -/
structure Outlined (p : TypedClient.Plan) (s : Settings) (text : String) : Prop where
  /-- The lines that begin in the first column. -/
  outer : outerLines text.toList = (clientOutline p s).map String.toList
  /-- The lines that begin functions are one for each call, in order, behind those of the two
  functions that are there if some call has a query. -/
  definitions : (linesOf text.toList).filter isDefinition =
    (definitionLines p).map String.toList
  /-- No other line begins in the first column but the header, the imports with their closing
  parenthesis, the address of the service and the ends of function heads. -/
  others : ∀ line ∈ linesOf text.toList, isOuter line = true → isDefinition line = false →
    line = headerLine.toList ∨
    (isImport line = true ∧ line ∈ (importLines p s).map String.toList) ∨
    line = [')'] ∨
    line = (baseUrlLine p).toList ∨
    ∃ c ∈ p.calls, line = (resultLine c).toList

theorem outlined_of_outer {p : TypedClient.Plan} {s : Settings} {text : String}
    (hquery : p.clientImports.query = p.calls.any fun c => c.queryModel.isSome)
    (h : outerLines text.toList = (clientOutline p s).map String.toList) : Outlined p s text := by
  refine ⟨h, ?_, ?_⟩
  · have houter : (linesOf text.toList).filter isDefinition =
        (outerLines text.toList).filter isDefinition := by
      rw [outerLines, List.filter_filter]
      refine List.filter_congr fun line _ => ?_
      cases hdefinition : isDefinition line with
      | false => rfl
      | true => rw [isOuter_of_isDefinition hdefinition]; rfl
    rw [houter, h, List.filter_map, ← filter_isDefinition_clientOutline hquery]
    rfl
  · intro line hline houter hdefinition
    have hmem : line ∈ outerLines text.toList := List.mem_filter.2 ⟨hline, houter⟩
    rw [h] at hmem
    obtain ⟨laid, hlaid, rfl⟩ := List.mem_map.1 hmem
    rcases mem_clientOutline hlaid hdefinition with rfl | himport | rfl | rfl | ⟨c, hc, rfl⟩
    · exact Or.inl rfl
    · exact Or.inr (Or.inl ⟨isImport_of_mem_importLines laid himport, List.mem_map_of_mem himport⟩)
    · exact Or.inr (Or.inr (Or.inl (by decide)))
    · exact Or.inr (Or.inr (Or.inr (Or.inl rfl)))
    · exact Or.inr (Or.inr (Or.inr (Or.inr ⟨c, hc, rfl⟩)))

/-- The files of a client: the models module, the client module and the module that marks the
package. -/
def clientFiles (s : Settings) (models client : String) : List Artifact := [
  ⟨(moduleFile s.schemaModule).toList, models⟩,
  ⟨(moduleFile s.clientModule).toList, client⟩,
  ⟨(moduleFile Client.packageModule).toList, ""⟩]

theorem artifacts_of_load {source : TemplateSource} {tree : FileTree} {set : TemplateSet}
    (h : source.load tree = .ok set) (p : TypedClient.Plan) (s : Settings) :
    artifacts source tree p s = Render.render set (templateValues p s) s := by
  rw [artifacts, h]
  rfl

/-- Where the client module is rendered, only the models module can stop the files. -/
theorem render_of_client {set : TemplateSet} {l : Library} {values : List (String × Json)}
    {s : Settings} {client : String} (hset : Library.ofSet set = .ok l)
    (hclient : renderModule l s.mode.clientTemplate values = .ok client) :
    Render.render set values s =
      (renderModule l modelsName values).map fun models => clientFiles s models client := by
  rw [Render.render, hset]
  change (renderModule l modelsName values >>= fun models =>
    renderModule l s.mode.clientTemplate values >>= fun client =>
      pure (clientFiles s models client)) = _
  rw [hclient]
  cases renderModule l modelsName values <;> rfl

section Built

variable {d : Document} {s : Settings} {p : TypedClient.Plan}

/-- A plan is built in the mode of settings that pass their check. -/
theorem check_of_build (h : build d s = .ok p) : s.check = .ok () ∧ p.mode = s.mode := by
  unfold build at h
  split at h
  · cases h
  · next hcheck =>
      split at h
      · cases h
      · cases h
        exact ⟨hcheck, rfl⟩

theorem isValidIdentifier_schemaModule (h : s.check = .ok ()) :
    Lexical.isValidIdentifier s.schemaModule = true := by
  obtain ⟨⟨⟩, hschema, -⟩ := ok_of_bind h
  exact ((Client.checkModule_eq_ok_iff _).1 hschema).2.1

theorem onOneLine_of_mem_clientImports (h : build d s = .ok p) :
    ∀ name ∈ p.clientImports.models, OnOneLine name.toList := by
  intro name hname
  rw [(imports_of_build h).2] at hname
  obtain ⟨c, hc, hname⟩ := List.mem_flatMap.1 (mem_sortedNames.1 hname)
  exact (inline_of_build h hc).models name hname

/-- The client module of a plan that is built is rendered, with the outline that is laid. -/
theorem exists_rendered_client (h : build d s = .ok p) :
    ∃ cs, builtinLibrary.render s.mode.clientTemplate (templateValues p s) = .ok cs ∧
      scan .fresh cs = ((clientOutline p s).map String.toList, .fresh) := by
  obtain ⟨hcheck, hmode⟩ := check_of_build h
  have htemplate : builtinLibrary.template? p.mode.clientTemplate =
      some (clientTemplate (functionPart p.mode)) := by
    cases p.mode <;> rfl
  rw [← hmode]
  exact Library.render_eq_ok htemplate (lays_clientTemplate (fun c hc => inline_of_build h hc)
    (onOneLine_of_mem_clientImports h)
    (onOneLine_of_isValidIdentifier (isValidIdentifier_schemaModule hcheck)))

/-- With the built-in templates only the models module can fail to be rendered, and the client
module is outlined. -/
theorem exists_outlined_client (h : build d s = .ok p) : ∃ client, Outlined p s client ∧
    ∀ tree, artifacts .builtin tree p s =
      (renderModule builtinLibrary modelsName (templateValues p s)).map fun models =>
        clientFiles s models client := by
  obtain ⟨cs, hcs, hscan⟩ := exists_rendered_client h
  have hquery : p.clientImports.query = p.calls.any fun c => c.queryModel.isSome := by
    rw [(imports_of_build h).2]
    rfl
  refine ⟨finished cs, outlined_of_outer hquery
    (outerLines_finished hscan fun line => trimEnd_of_mem_clientOutline), fun tree => ?_⟩
  have hclient : renderModule builtinLibrary s.mode.clientTemplate (templateValues p s) =
      .ok (finished cs) := by
    rw [renderModule, hcs]
  have hload : TemplateSource.builtin.load tree = .ok builtinSet := rfl
  rw [artifacts_of_load hload]
  exact render_of_client ofSet_builtinSet hclient

end Built

/-- Whatever the document says, the client module that the built-in templates give has the outline
of its plan. -/
theorem outlined_of_artifacts (d : Document) (s : Settings) (p : TypedClient.Plan) (tree : FileTree)
    (files : List Artifact) (h : build d s = .ok p)
    (hfiles : artifacts .builtin tree p s = .ok files) :
    ∃ models client, files = clientFiles s models client ∧ Outlined p s client := by
  obtain ⟨client, houtlined, hartifacts⟩ := exists_outlined_client h
  rw [hartifacts tree] at hfiles
  cases hmodels : renderModule builtinLibrary modelsName (templateValues p s) with
  | error problem =>
      rw [hmodels] at hfiles
      cases hfiles
  | ok models =>
      rw [hmodels] at hfiles
      exact ⟨models, client, (Except.ok.inj hfiles).symm, houtlined⟩

theorem outlined_of_artifacts_shop : ∃ p files, build shop {} = .ok p ∧
    artifacts .builtin .empty p {} = .ok files ∧
    definitionLines p = ["def _query_params(params) -> dict:", "def _query_value(value):",
      "def default_get_list_orders("] ∧
    ∃ models client, files = clientFiles {} models client ∧ Outlined p {} client := by
  have hbuilds : builds shop {} (fun p =>
      (renderModule builtinLibrary modelsName (templateValues p {})).isOk &&
        definitionLines p == ["def _query_params(params) -> dict:", "def _query_value(value):",
          "def default_get_list_orders("]) = true := by
    decide +kernel
  obtain ⟨p, hp, htest⟩ := exists_of_builds hbuilds
  obtain ⟨hmodels, hlines⟩ := Bool.and_eq_true_iff.1 htest
  obtain ⟨models, hmodels⟩ := exists_of_isOk hmodels
  obtain ⟨client, -, hartifacts⟩ := exists_outlined_client hp
  have hfiles : artifacts .builtin .empty p {} = .ok (clientFiles {} models client) := by
    rw [hartifacts, hmodels]
    rfl
  exact ⟨p, _, hp, hfiles, eq_of_beq hlines, outlined_of_artifacts shop {} p .empty _ hp hfiles⟩

end TypedClient.Render
