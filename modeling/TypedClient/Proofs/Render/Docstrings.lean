import TypedClient.Proofs.Lexical.Docstrings
import TypedClient.Proofs.Render.ClientLayout

/-!
# Docstrings of functions

The docstring of a function has the escaped words of the summary, the note that the function is
deprecated, and a space where it would end in a quote otherwise (`toList_functionDocstring`).
Between the quotes that the template writes around it (`renderNode_signaturePart`) it is closed,
whatever the summary is, and what it says are the words of the summary (`functionDocstring_spec`). A
null character of the summary is passed on, though, and no source text may hold one
(`functionDocstring_nullSummary`).
-/

namespace TypedClient.Render

open Client (Mode Settings)
open Lexical
open OpenApi (Document Operation)
open Plan
open Template
open Text

/-- The words of a summary in plain punctuation, one space apart. -/
def summaryWords (o : Operation) : List Char :=
  joinWith [' '] (spacedWords ((o.summary.getD "").toList.map plainPunctuation))

/-- The note that a function is deprecated, as a paragraph behind the summary. -/
def deprecatedNote : List Char := "\n\n    Deprecated.".toList

/-- What a docstring has behind the words of the summary. A note without a summary is no paragraph
of its own, and a space keeps a quote away from those that end the string. -/
def docstringEnd (words : List Char) (deprecated : Bool) : List Char :=
  if deprecated then
    if words = [] then "Deprecated.".toList else deprecatedNote
  else if words.getLast? = some '"' then [' '] else []

/-! ## Texts -/

theorem toList_docstring (summary : String) :
    (docstring summary).toList = escapeDocstring (docstringWords summary.toList) :=
  String.toList_ofList

/-- The summary of a call is the escaped text of the words, if there are any. -/
theorem summary?_eq (o : Operation) :
    summary? o = if summaryWords o = [] then none
      else some (String.ofList (escapeDocstring (summaryWords o))) := by
  unfold summary? summaryWords
  cases o.summary with
  | none => rfl
  | some summary =>
      have hempty : (docstring summary).isEmpty = true ↔ docstringWords summary.toList = [] := by
        rw [String.isEmpty_iff, ← String.toList_eq_nil_iff, toList_docstring,
          ← List.getLast?_eq_none_iff, getLast?_escapeDocstring, List.getLast?_eq_none_iff]
      rw [Option.getD_some, ← docstringWords_eq]
      by_cases hwords : docstringWords summary.toList = []
      · simp only [hempty.2 hwords, if_true, if_pos hwords]
      · simp only [Bool.eq_false_iff.2 (hempty.not.2 hwords), if_neg hwords]
        rfl

theorem toList_spaceAfterQuote (text : String) : (spaceAfterQuote text).toList =
    text.toList ++ if text.toList.getLast? = some '"' then [' '] else [] := by
  unfold spaceAfterQuote
  by_cases h : text.toList.getLast? = some '"'
  · rw [if_pos (by simpa using h), if_pos h, String.toList_append]
    rfl
  · rw [if_neg (by simpa using h), if_neg h, List.append_nil]

/-- The docstring of a function has the escaped words of the summary and what belongs behind
them. -/
theorem toList_functionDocstring {o : Operation} {c : Call} (h : c.summary = summary? o) :
    (functionDocstring c).map String.toList =
      if summaryWords o = [] ∧ c.deprecated = false then none
      else some (escapeDocstring (summaryWords o) ++
        docstringEnd (summaryWords o) c.deprecated) := by
  unfold functionDocstring docstringEnd
  rw [h, summary?_eq]
  by_cases hwords : summaryWords o = []
  · rw [if_pos hwords, hwords]
    cases c.deprecated <;> decide
  · have hsome : ∀ flag : Bool, ¬(summaryWords o = [] ∧ flag = false) := fun _ hnil => hwords hnil.1
    rw [if_neg hwords, if_neg (hsome _)]
    cases c.deprecated with
    | true =>
        have htext : ("\n\n    ".intercalate [String.ofList (escapeDocstring (summaryWords o)),
            "Deprecated."]).toList = escapeDocstring (summaryWords o) ++ deprecatedNote := by
          change (String.ofList (escapeDocstring (summaryWords o)) ++ "\n\n    " ++
            "Deprecated.").toList = _
          rw [String.append_assoc, String.toList_append, String.toList_ofList]
          rfl
        have hend : (escapeDocstring (summaryWords o) ++ deprecatedNote).getLast? ≠ some '"' := by
          rw [List.getLast?_append_of_ne_nil _ (by decide)]
          decide
        change some (spaceAfterQuote ("\n\n    ".intercalate
          [String.ofList (escapeDocstring (summaryWords o)), "Deprecated."])).toList = _
        rw [toList_spaceAfterQuote, htext, if_neg hend, List.append_nil, if_pos rfl, if_neg hwords]
    | false =>
        change some (spaceAfterQuote (String.ofList (escapeDocstring (summaryWords o)))).toList = _
        rw [toList_spaceAfterQuote, String.toList_ofList, getLast?_escapeDocstring,
          if_neg Bool.false_ne_true]

/-! ## Emission -/

/-- The lines of a function up to its docstring. -/
def signatureHead (mode : Mode) (c : Call) : List Char :=
  (keyword mode ++ " " ++ c.functionName ++ "(\n").toList ++
    (parameters c mode).flatMap (fun parameter => ("    " ++ parameter ++ ",\n").toList) ++
    (") -> " ++ returnHint c ++ ":\n").toList

/-- The lines of a docstring. -/
def docstringLines (text : Option String) : List Char :=
  match text with
  | some text => "    ".toList ++ longQuotes ++ text.toList ++ longQuotes ++ ['\n']
  | none => []

theorem renderNode_docstring {invoke : Invoke} {s : Scope} {text : Option String}
    (hne : text ≠ some "") (h : s.lookup ["op", "docstring"] = some (optionJson text)) :
    renderNode invoke s (onlyIf (member "op" "docstring")
      [.text "    \"\"\"", putMember "op" "docstring", .text "\"\"\"\n"]) =
        .ok (docstringLines text) := by
  refine (renderNode_optional hne h _ _).trans ?_
  cases text with
  | none => exact renderNodes_nil invoke s
  | some text =>
      refine (renderNodes_cons (renderNode_text _ _ _) <|
        renderNodes_cons (renderNode_print h) <|
        renderNodes_cons (renderNode_text _ _ _) (renderNodes_nil _ _)).trans
          (congrArg Except.ok ?_)
      have hopen : "    \"\"\"".toList = "    ".toList ++ longQuotes := by decide
      have hclose : "\"\"\"\n".toList = longQuotes ++ ['\n'] := by decide
      rw [docstringLines, hopen, hclose]
      simp only [List.append_assoc, List.append_nil]

/-- The built-in templates write the docstring of a function between three quotes on either side. -/
theorem renderNode_signaturePart {s : Scope} {mode : Mode} (hs : s.template = mode.clientTemplate)
    (depth : Nat) {c : Call} (hne : functionDocstring c ≠ some "")
    (hop : s.lookup ["op"] = some (ClientFunction.ofCall mode c).toJson) :
    renderNode (builtinLibrary.invokeAt (depth + 1)) s (signaturePart (keyword mode)) =
      .ok (signatureHead mode c ++ docstringLines (functionDocstring c)) := by
  refine renderNode_call (definition_macros hs rfl) (evaluateArguments_op hop _ _) rfl ?_
  refine (renderNodes_cons (renderNode_print rfl) <|
    renderNodes_cons (renderNode_text _ _ _) <|
    renderNodes_cons (renderNode_print rfl) <|
    renderNodes_cons (renderNode_text _ _ _) <|
    renderNodes_cons (renderNode_each (evaluate_path rfl) fun parameter _ =>
      renderNodes_cons (renderNode_text _ _ _) <|
      renderNodes_cons (renderNode_print rfl) <|
      renderNodes_cons (renderNode_text _ _ _) (renderNodes_nil _ _)) <|
    renderNodes_cons (renderNode_text _ _ _) <|
    renderNodes_cons (renderNode_print rfl) <|
    renderNodes_cons (renderNode_text _ _ _) <|
    renderNodes_cons (renderNode_docstring hne rfl)
      (renderNodes_nil _ _)).trans (congrArg Except.ok ?_)
  simp only [signatureHead, String.toList_append, List.append_assoc, List.append_nil]
  rfl

/-! ## Closed docstrings -/

section Closed

variable {o : Operation} {c : Call} (h : c.summary = summary? o)
include h

theorem functionDocstring_eq_none_iff :
    functionDocstring c = none ↔ summaryWords o = [] ∧ c.deprecated = false := by
  rw [← Option.map_eq_none_iff, toList_functionDocstring h]
  split
  · next hnone => exact iff_of_true rfl hnone
  · next hsome => exact iff_of_false (by simp) hsome

theorem toList_of_functionDocstring {text : String} (htext : functionDocstring c = some text) :
    text.toList =
      escapeDocstring (summaryWords o) ++ docstringEnd (summaryWords o) c.deprecated := by
  have hlist := toList_functionDocstring h
  rw [if_neg ((functionDocstring_eq_none_iff h).not.1 (by simp [htext])), htext] at hlist
  exact Option.some.inj hlist

theorem functionDocstring_ne_empty : functionDocstring c ≠ some "" := by
  intro htext
  have hlist := toList_of_functionDocstring h htext
  obtain ⟨hescape, hend⟩ := List.append_eq_nil_iff.1 hlist.symm
  have hwords : summaryWords o = [] := by
    rw [← List.getLast?_eq_none_iff, ← getLast?_escapeDocstring, hescape]
    rfl
  have hsome := (functionDocstring_eq_none_iff h).not.1 (by simp [htext])
  have hdeprecated : c.deprecated = true := Bool.eq_true_of_not_eq_false fun hfalse =>
    hsome ⟨hwords, hfalse⟩
  rw [docstringEnd, hwords, hdeprecated] at hend
  exact absurd hend (by decide)

end Closed

theorem onOneLine_escape_summaryWords (o : Operation) :
    OnOneLine (escapeDocstring (summaryWords o)) := by
  rw [summaryWords, ← docstringWords_eq, ← toList_docstring]
  exact onOneLine_docstring _

theorem docstringEnd_spec (words : List Char) (deprecated : Bool) :
    (∀ c ∈ docstringEnd words deprecated, c ≠ '"' ∧ c ≠ '\\') ∧
    (docstringEnd words deprecated = [] → words.getLast? ≠ some '"') := by
  have hplain : ∀ cs : List Char, (cs.all fun c => c != '"' && c != '\\') = true →
      ∀ c ∈ cs, c ≠ '"' ∧ c ≠ '\\' :=
    fun cs hcs => by simpa using hcs
  unfold docstringEnd
  cases deprecated with
  | true =>
      rw [if_pos rfl]
      split
      · exact ⟨hplain _ (by decide), fun h => absurd h (by decide)⟩
      · exact ⟨hplain _ (by decide), fun h => absurd h (by decide)⟩
  | false =>
      rw [if_neg Bool.false_ne_true]
      split
      · exact ⟨hplain _ (by decide), fun h => absurd h (by decide)⟩
      · next hlast => exact ⟨by simp, fun _ => hlast⟩

/-- Behind the words of a summary, a docstring has no line break but those of the note. -/
theorem exists_line_docstringEnd {line : List Char} (h : OnOneLine line) (words : List Char)
    (deprecated : Bool) : ∃ line', OnOneLine line' ∧
      (line ++ docstringEnd words deprecated = line' ∨
        deprecated = true ∧ line ++ docstringEnd words deprecated = line' ++ deprecatedNote) := by
  unfold docstringEnd
  cases deprecated with
  | true =>
      rw [if_pos rfl]
      split
      · exact ⟨_, h.append (by decide), .inl rfl⟩
      · exact ⟨line, h, .inr ⟨rfl, rfl⟩⟩
  | false =>
      rw [if_neg Bool.false_ne_true]
      split
      · exact ⟨_, h.append (by decide), .inl rfl⟩
      · exact ⟨line, h, .inl (List.append_nil line)⟩

theorem null_mem_summaryWords (o : Operation) :
    '\x00' ∈ summaryWords o ↔ '\x00' ∈ (o.summary.getD "").toList := by
  rw [summaryWords, mem_joinWith_iff (by decide), flatten_spacedWords, List.mem_filter,
    List.mem_map]
  constructor
  · rintro ⟨⟨c, hc, heq⟩, -⟩
    by_cases hmark : c ∈ typographic
    · have hmarks := List.all_eq_true.1
        (by decide : (typographic.all fun c => plainPunctuation c != '\x00') = true) c hmark
      exact absurd heq (bne_iff_ne.1 hmarks)
    · rw [← heq, plainPunctuation_of_not_mem hmark]
      exact hc
  · intro hnull
    exact ⟨⟨'\x00', hnull, plainPunctuation_of_not_mem (by decide)⟩, by decide⟩

theorem null_not_mem_docstringEnd (words : List Char) (deprecated : Bool) :
    '\x00' ∉ docstringEnd words deprecated := by
  unfold docstringEnd
  split
  · split <;> decide
  · split <;> decide

/-- A function has a docstring unless there is nothing to say. Its text is closed, breaks lines only
in front of the note that the function is deprecated, and is read as the words of the summary and
what belongs behind them, up to the quotes that the built-in templates write behind it, unless the
summary holds a null character. -/
theorem functionDocstring_spec (o : Operation) (c : Call) (h : c.summary = summary? o) :
    (functionDocstring c = none ↔ summaryWords o = [] ∧ c.deprecated = false) ∧
    (∀ text, functionDocstring c = some text →
      IsClosed text.toList ∧
      (∃ line, OnOneLine line ∧
        (text.toList = line ∨ c.deprecated = true ∧ text.toList = line ++ deprecatedNote)) ∧
      ∀ rest, readLong (text.toList ++ (longQuotes ++ rest)) =
        if '\x00' ∈ (o.summary.getD "").toList then none
        else some (summaryWords o ++ docstringEnd (summaryWords o) c.deprecated, rest)) ∧
    ∀ (mode : Mode) (s : Scope) (depth : Nat), s.template = mode.clientTemplate →
      s.lookup ["op"] = some (ClientFunction.ofCall mode c).toJson →
      renderNode (builtinLibrary.invokeAt (depth + 1)) s (signaturePart (keyword mode)) =
        .ok (signatureHead mode c ++ docstringLines (functionDocstring c)) := by
  refine ⟨functionDocstring_eq_none_iff h, fun text htext => ?_, fun mode s depth hs hop => ?_⟩
  · rw [toList_of_functionDocstring h htext]
    obtain ⟨hplain, hlast⟩ := docstringEnd_spec (summaryWords o) c.deprecated
    obtain ⟨hclosed, hread⟩ := escapeDocstring_append_spec hplain hlast
    have hnull : '\x00' ∈ summaryWords o ++ docstringEnd (summaryWords o) c.deprecated ↔
        '\x00' ∈ (o.summary.getD "").toList := by
      rw [List.mem_append, or_iff_left (null_not_mem_docstringEnd _ _), null_mem_summaryWords]
    refine ⟨hclosed, exists_line_docstringEnd (onOneLine_escape_summaryWords o) _ _, fun rest => ?_⟩
    rw [hread]
    simp only [hnull]
  · exact renderNode_signaturePart hs depth (functionDocstring_ne_empty h) hop

/-- The operation of a greeting, with quotes of all kinds. -/
def greeting : Operation where
  id := some "greet"
  path := "/greet"
  method := .get
  tags := []
  summary := some "Say  \u201c\"\"hi\"\"\"\n C:\\path \"now\""
  description := none
  deprecated := false
  parameters := []
  requestBody := none
  responses := []

theorem functionDocstring_spec_greeting :
    (callOf .blocking greeting [] none none).summary = summary? greeting ∧
    ∃ text, functionDocstring (callOf .blocking greeting [] none none) = some text ∧
      text = "Say \\\"\\\"\\\"hi\\\"\\\"\\\" C:\\\\path \"now\" " ∧
      readLong (text.toList ++ (longQuotes ++ ['\n'])) =
        some ("Say \"\"\"hi\"\"\" C:\\path \"now\" ".toList, ['\n']) := by
  have hsummary : (callOf .blocking greeting [] none none).summary = summary? greeting := rfl
  refine ⟨hsummary, _, ?_, rfl, ?_⟩
  · decide +kernel
  · refine (((functionDocstring_spec greeting _ hsummary).2.1 _ ?_).2.2 ['\n']).trans ?_
    · decide +kernel
    · decide +kernel

/-- The operation of a greeting whose summary holds a null character. -/
def nullGreeting : Operation := { greeting with summary := some "a\x00b" }

/-- A null character reaches the docstring as it is, which then cannot be read. -/
theorem functionDocstring_nullSummary :
    (callOf .blocking nullGreeting [] none none).summary = summary? nullGreeting ∧
    functionDocstring (callOf .blocking nullGreeting [] none none) = some "a\x00b" ∧
    readLong ("a\x00b".toList ++ (longQuotes ++ ['\n'])) = none := by
  refine ⟨rfl, ?_, ?_⟩
  · decide +kernel
  · decide +kernel

/-- The calls of a plan that is built have the summaries of operations. -/
theorem exists_summary_of_build {d : Document} {s : Settings} {p : TypedClient.Plan}
    (h : build d s = .ok p) {c : Call} (hc : c ∈ p.calls) :
    ∃ o ∈ d.operations, c.summary = summary? o ∧ c.deprecated = o.deprecated := by
  obtain ⟨o, ho, declared, body, response, split, -, rfl⟩ := exists_callOf_of_build h hc
  exact ⟨o, List.mem_of_mem_filter ho, rfl, rfl⟩

end TypedClient.Render
