import TypedClient.Proofs.Plan.ClassIdentifiers
import TypedClient.Proofs.Plan.PathParameters
import TypedClient.Proofs.Text.Lines
import TypedClient.Render.Variables

/-!
# Texts on one line

What a document says reaches the client module as part of a line: names are made of characters of
identifiers (`isIdentifierChar_of_classOf`), quoted texts have their line breaks escaped
(`onOneLine_escapeText`), and a summary is one line of words (`onOneLine_docstring`). So no text
that is put together for a function breaks a line, as long as the names and the summary of its call
do not (`Call.Inline`), and in a plan that is built they never do (`inline_of_build`).
-/

namespace TypedClient.Render

open Client (Mode Settings)
open Lexical (isIdentifierChar)
open OpenApi (Document Operation)
open Plan
open Text

/-! ## Characters -/

theorem onOneLine_append {a b : String} (ha : OnOneLine a.toList) (hb : OnOneLine b.toList) :
    OnOneLine (a ++ b).toList := by
  rw [String.toList_append]
  exact ha.append hb

theorem onOneLine_of_isIdentifierChar {cs : List Char} (h : ∀ c ∈ cs, isIdentifierChar c = true) :
    OnOneLine cs := by
  intro c hc
  by_contra hbreak
  have hword := h c hc
  simp only [isLineBreak, Bool.not_eq_false, Bool.or_eq_true, beq_iff_eq] at hbreak
  rcases hbreak with rfl | rfl
  · revert hword
    decide
  · revert hword
    decide

theorem onOneLine_of_isValidIdentifier {name : String}
    (h : Lexical.isValidIdentifier name = true) : OnOneLine name.toList :=
  onOneLine_of_isIdentifierChar (Lexical.isWord_of_isValidIdentifier h).chars

theorem isBlank_of_isLineBreak {c : Char} (h : isLineBreak c = true) : isBlank c = true := by
  simp only [isLineBreak, Bool.or_eq_true, beq_iff_eq] at h
  rcases h with rfl | rfl <;> decide

/-! ## Quoted texts -/

theorem onOneLine_escapeText (cs : List Char) : OnOneLine (Lexical.escapeText cs) := by
  intro c hc
  obtain ⟨d, -, hc⟩ := List.mem_flatMap.1 hc
  have hescape : OnOneLine (Lexical.escapeChar d) := by
    unfold Lexical.escapeChar
    split
    iterate 5 decide
    next hfeed hreturn _ =>
      refine List.forall_mem_singleton.2 ?_
      rw [isLineBreak, beq_eq_false_iff_ne.2 hfeed, beq_eq_false_iff_ne.2 hreturn]
      rfl
  exact hescape c hc

theorem onOneLine_quote (text : String) : OnOneLine (Lexical.quote text).toList := by
  rw [Lexical.toList_quote]
  have hopened : OnOneLine ('"' :: Lexical.escapeText text.toList) :=
    List.forall_mem_cons.2 ⟨by decide, onOneLine_escapeText _⟩
  exact hopened.append (by decide)

/-! ## Summaries -/

theorem space_or_not_isBlank_of_mem_collapseBlanks {c : Char} {cs : List Char}
    (h : c ∈ collapseBlanks cs) : c = ' ' ∨ isBlank c = false := by
  fun_induction collapseBlanks cs with
  | case1 => cases h
  | case2 d hd => exact Or.inl (List.mem_singleton.1 h)
  | case3 d hd e es he ih => exact ih h
  | case4 d hd e es he ih =>
      rcases List.mem_cons.1 h with h | h
      · exact Or.inl h
      · exact ih h
  | case5 d cs hd ih =>
      rcases List.mem_cons.1 h with rfl | h
      · exact Or.inr (by simpa using hd)
      · exact ih h

theorem onOneLine_collapseBlanks (cs : List Char) : OnOneLine (collapseBlanks cs) := by
  intro c hc
  by_contra hbreak
  have hbreak : isLineBreak c = true := by simpa using hbreak
  rcases space_or_not_isBlank_of_mem_collapseBlanks hc with rfl | hblank
  · cases hbreak
  · rw [isBlank_of_isLineBreak hbreak] at hblank
    cases hblank

theorem onOneLine_joinWith {pieces : List (List Char)} (h : ∀ piece ∈ pieces, OnOneLine piece) :
    OnOneLine (joinWith [' '] pieces) := by
  fun_induction joinWith [' '] pieces with
  | case1 => exact fun c hc => absurd hc List.not_mem_nil
  | case2 piece => exact h piece List.mem_cons_self
  | case3 piece rest hrest ih =>
      rw [List.forall_mem_cons] at h
      exact (h.1.append (by decide)).append (ih h.2)

theorem onOneLine_docstringWords (cs : List Char) : OnOneLine (Lexical.docstringWords cs) := by
  refine onOneLine_joinWith fun line hline => ?_
  obtain ⟨given, -, rfl⟩ := List.mem_map.1 (List.mem_of_mem_filter hline)
  exact onOneLine_collapseBlanks _

theorem onOneLine_docstring (summary : String) : OnOneLine (Lexical.docstring summary).toList := by
  intro c hc
  rw [Lexical.docstring, String.toList_ofList, Lexical.escapeDocstring] at hc
  rcases mem_of_mem_replaceAll hc with hc | hc
  · exact (by decide : OnOneLine ['\\', '"', '\\', '"', '\\', '"']) c hc
  · rcases mem_of_mem_replaceAll hc with hc | hc
    · exact (by decide : OnOneLine ['\\', '\\']) c hc
    · exact onOneLine_docstringWords _ c hc

/-! ## Calls -/

/-- No name and no summary of the call breaks a line. -/
structure Inline (c : Call) : Prop where
  functionName : OnOneLine c.functionName.toList
  pathParameters : ∀ p ∈ c.pathParameters, OnOneLine p.name.toList
  models : ∀ name ∈ c.models, OnOneLine name.toList
  summary : ∀ text ∈ c.summary, OnOneLine text.toList

theorem onOneLine_hint (p : Primitive) : OnOneLine p.hint.toList := by
  cases p <;> decide

theorem onOneLine_typeHint {type : TypeRef} (h : ∀ name ∈ type.model?, OnOneLine name.toList) :
    OnOneLine (typeHint type).toList := by
  cases type with
  | model name => exact h name rfl
  | modelList name =>
      exact onOneLine_append (onOneLine_append (by decide) (h name rfl)) (by decide)
  | primitive p => exact onOneLine_hint p
  | primitiveList p =>
      exact onOneLine_append (onOneLine_append (by decide) (onOneLine_hint p)) (by decide)
  | map p => exact onOneLine_append (onOneLine_append (by decide) (onOneLine_hint p)) (by decide)
  | any => decide

theorem onOneLine_bodyArgument (type : TypeRef) : OnOneLine (bodyArgument type).toList := by
  have hjson : OnOneLine jsonArguments.toList := by decide
  unfold bodyArgument
  split
  · exact onOneLine_append (onOneLine_append (by decide) hjson) (by decide)
  · exact onOneLine_append (onOneLine_append (by decide) hjson) (by decide)
  · decide

theorem onOneLine_urlExpression (c : Call) : OnOneLine (urlExpression c).toList := by
  unfold urlExpression
  split
  · refine onOneLine_append (onOneLine_append (by decide) ?_) (by decide)
    rw [String.toList_ofList]
    exact onOneLine_escapeText _
  · exact onOneLine_append (by decide) (onOneLine_quote _)

theorem onOneLine_getD {value : Option String} (h : ∀ text ∈ value, OnOneLine text.toList) :
    OnOneLine (value.getD "").toList := by
  cases value with
  | none => decide
  | some text => exact h text rfl

theorem onOneLine_queryArgument (c : Call) : OnOneLine ((queryArgument c).getD "").toList := by
  unfold queryArgument
  split <;> decide

theorem onOneLine_getD_bodyArgument (body : Option TypeRef) :
    OnOneLine ((body.map bodyArgument).getD "").toList := by
  refine onOneLine_getD fun text htext => ?_
  obtain ⟨type, -, rfl⟩ := Option.mem_map.1 htext
  exact onOneLine_bodyArgument type

theorem onOneLine_payload (mode : Mode) : OnOneLine (payload mode).toList := by
  cases mode <;> decide

theorem onOneLine_returnExpression {type : TypeRef} (mode : Mode)
    (h : ∀ name ∈ type.model?, OnOneLine name.toList) :
    OnOneLine (returnExpression type mode).toList := by
  have hpayload := onOneLine_payload mode
  cases type with
  | model name =>
      exact onOneLine_append (onOneLine_append (onOneLine_append (h name rfl) (by decide)) hpayload)
        (by decide)
  | modelList name =>
      exact onOneLine_append (onOneLine_append (onOneLine_append (onOneLine_append (by decide)
        (h name rfl)) (by decide)) hpayload) (by decide)
  | primitive p => exact hpayload
  | primitiveList p => exact hpayload
  | map p => exact hpayload
  | any => exact hpayload

namespace Inline

variable {c : Call}

theorem bodyType (h : Inline c) {type : TypeRef} (htype : type ∈ c.bodyTypes) :
    ∀ name ∈ type.model?, OnOneLine name.toList := fun name hname =>
  h.models name (List.mem_append_right _ (List.mem_filterMap.2 ⟨type, htype, hname⟩))

theorem returnHint (h : Inline c) : OnOneLine (returnHint c).toList := by
  unfold Render.returnHint
  split
  · next type hresponse =>
      have htype : type ∈ c.bodyTypes :=
        List.mem_append_right _ (Option.mem_toList.2 hresponse)
      exact onOneLine_append
        (onOneLine_append (by decide) (onOneLine_typeHint (h.bodyType htype))) (by decide)
  · decide

theorem parameters (h : Inline c) (mode : Mode) :
    ∀ text ∈ parameters c mode, OnOneLine text.toList := by
  have hproxy : OnOneLine (proxyParameter mode).toList := by cases mode <;> decide
  unfold Render.parameters
  simp only [List.forall_mem_append, List.forall_mem_map, List.forall_mem_cons]
  refine ⟨⟨⟨⟨?_, fun p hp => ?_⟩, by decide, List.forall_mem_nil _⟩, ?_⟩, by decide, hproxy,
    by decide, List.forall_mem_nil _⟩
  · cases hbody : c.body with
    | none => exact List.forall_mem_nil _
    | some type =>
        have htype : type ∈ c.bodyTypes := List.mem_append_left _ (Option.mem_toList.2 hbody)
        simp only [List.forall_mem_cons]
        exact ⟨onOneLine_append (by decide) (onOneLine_typeHint (h.bodyType htype)), by decide,
          List.forall_mem_nil _⟩
  · exact onOneLine_append (onOneLine_append (h.pathParameters p hp) (by decide))
      (onOneLine_hint p.type)
  · cases hquery : c.queryModel with
    | none => exact List.forall_mem_nil _
    | some name =>
        have hname : name ∈ c.models := List.mem_append_left _ (Option.mem_toList.2 hquery)
        exact List.forall_mem_singleton.2 (onOneLine_append (by decide) (h.models name hname))

theorem returnExpression (h : Inline c) (mode : Mode) :
    OnOneLine ((c.response.map fun type => returnExpression type mode).getD "").toList := by
  refine onOneLine_getD fun text htext => ?_
  obtain ⟨type, hresponse, rfl⟩ := Option.mem_map.1 htext
  exact onOneLine_returnExpression mode
    (h.bodyType (List.mem_append_right _ (Option.mem_toList.2 hresponse)))

/-- The lines of a docstring behind its first one are indented. -/
theorem scan_docstring (h : Inline c) :
    scan .inner ((functionDocstring c).getD "").toList = ([], .inner) := by
  have hspaced : ∀ {t : String}, scan .inner t.toList = ([], .inner) →
      scan .inner (spaceAfterQuote t).toList = ([], .inner) := by
    intro t ht
    unfold spaceAfterQuote
    split
    · rw [String.toList_append, scan_append, ht]
      decide
    · exact ht
  unfold functionDocstring
  cases hsummary : c.summary with
  | none => cases c.deprecated <;> decide
  | some words =>
      have hwords := scan_inner (h.summary words hsummary)
      cases c.deprecated with
      | false => exact hspaced hwords
      | true =>
          refine hspaced ?_
          change scan .inner (words ++ "\n\n    " ++ "Deprecated.").toList = _
          rw [String.toList_append, String.toList_append, scan_append, scan_append, hwords]
          decide

end Inline

/-! ## Built plans -/

/-- The class names of models are made of characters of identifiers, valid or not. -/
theorem isIdentifierChar_of_classOf {d : Document} {s : Settings} {name : String}
    (h : ClassOf d s name) : ∀ c ∈ name.toList, isIdentifierChar c = true := by
  cases h with
  | whole hmem htarget hwhole =>
      rw [eq_modelName_of_ofComponent (Or.inl htarget)]
      exact (Lexical.isWord_of_isValidIdentifier (isValidIdentifier_modelName _)).chars
  | half hmem htarget hdirected v =>
      rw [eq_modelName_of_ofComponent (Or.inl htarget)]
      exact (Lexical.isWord_of_isValidIdentifier
        (isValidIdentifier_nameOf (isValidIdentifier_modelName _) v)).chars
  | @container o ho hquery =>
      have hfunction :=
        (Lexical.isWord_of_isValidIdentifier (isValidIdentifier_functionNameOf o)).chars
      rw [containerName, Naming.queryModelName, String.toList_append, Naming.typeWords,
        String.toList_ofList, List.forall_mem_append]
      exact ⟨Naming.isIdentifierChar_of_mem_typeCase hfunction, List.all_eq_true.1 (by decide)⟩

theorem onOneLine_of_mem_pathParameters {components : Components} {o : Operation}
    {declared : List PathParameter}
    (h : List.Forall₂ (fun p a => components.pathParameter p = .ok a) (pathParametersOf o)
      declared) :
    ∀ p ∈ allPathParameters declared o.path, OnOneLine p.name.toList := by
  intro p hp
  rw [hasArgument_of_mem_allPathParameters h p hp]
  exact onOneLine_of_isValidIdentifier (Lexical.isValidIdentifier_sanitizeParameter _)

theorem onOneLine_of_mem_summary? (o : Operation) :
    ∀ text ∈ summary? o, OnOneLine text.toList := by
  intro text htext
  unfold summary? at htext
  split at htext
  · cases htext
  · dsimp only at htext
    split at htext
    · cases htext
    · rw [← Option.some.inj htext]
      exact onOneLine_docstring _

section Built

variable {d : Document} {s : Settings} {p : TypedClient.Plan}

theorem onOneLine_of_mem_modelNames (h : build d s = .ok p) {name : String}
    (hname : name ∈ p.models.map Model.name) : OnOneLine name.toList :=
  onOneLine_of_isIdentifierChar (isIdentifierChar_of_classOf ((mem_modelNames_iff h).1 hname))

/-- No call of a plan that is built breaks a line. -/
theorem inline_of_build (h : build d s = .ok p) {c : Call} (hc : c ∈ p.calls) : Inline c := by
  have hmodels : ∀ name ∈ c.models, OnOneLine name.toList := fun name hname =>
    onOneLine_of_mem_modelNames h (mem_of_callModels h hc hname)
  obtain ⟨o, -, declared, body, response, split, hdeclared, rfl⟩ := exists_callOf_of_build h hc
  refine ⟨?_, ?_, hmodels, ?_⟩
  · simp only [redirectCall, callOf]
    exact onOneLine_of_isValidIdentifier (isValidIdentifier_functionNameOf o)
  · exact onOneLine_of_mem_pathParameters hdeclared
  · exact onOneLine_of_mem_summary? o

end Built

end TypedClient.Render
