import TypedClient.Proofs.Render.Builtin
import TypedClient.Proofs.Render.OneLine
import TypedClient.Proofs.Template.Layout

/-!
# Layout of the client module

Part by part, the built-in templates lay the same outer lines whatever the plan says: one at the top
(`lays_header`), two for each function (`lays_signature`, `lays_function`), two for the functions
that queries need (`lays_query`), and the imports and the address in between. All of them together
are the outline of the client module (`clientOutline`, `lays_clientTemplate`). The calls have to be
free of line breaks, and so have the names that are imported.
-/

namespace TypedClient.Render

open Client (Mode Settings)
open Plan
open Template
open Text

/-! ## Macros -/

/-- The macros that a client module calls are those of the built-in set. -/
theorem definition_macros {s : Scope} {mode : Mode} (hs : s.template = mode.clientTemplate)
    {name : String} {d : Definition}
    (hd : macrosTemplate.definitions.findRev? (fun d => d.name == name) = some d) :
    builtinLibrary.definition s "macros" name = .ok (macrosName, d) := by
  have hspaces : (builtinLibrary.spaces (builtinLibrary.templates.length + 1)
      mode.clientTemplate).lookup "macros" = some macrosName := by
    cases mode <;> decide +kernel
  have htemplate : builtinLibrary.template? macrosName = some macrosTemplate := rfl
  simp only [Library.definition, hs, hspaces, htemplate, Option.map_some, Option.getD_some, hd]

theorem renderNode_printOption {invoke : Invoke} {s : Scope} {path : List String}
    {value : Option String} (h : s.lookup path = some (optionJson value)) :
    renderNode invoke s (.print (.path path)) = .ok (value.getD "").toList := by
  rw [renderNode, evaluate_path h]
  cases value <;> rfl

theorem isTrue_optionJson {value : Option String} (h : value ≠ some "") :
    Template.isTrue (optionJson value) = value.isSome := by
  cases value with
  | none => rfl
  | some text =>
      have htext : text.isEmpty = false := by simpa using h
      change (!text.isEmpty) = true
      rw [htext]
      rfl

/-- A part for a member of the operation that may be missing. -/
theorem renderNode_optional {invoke : Invoke} {s : Scope} {key : String} {value : Option String}
    (hvalue : value ≠ some "") (h : s.lookup ["op", key] = some (optionJson value))
    (body otherwise : List Node) :
    renderNode invoke s (.choice (member "op" key) body otherwise) =
      value.elim (renderNodes invoke s otherwise) fun _ => renderNodes invoke s body := by
  rw [member, renderNode_choice (evaluate_path h), isTrue_optionJson hvalue]
  cases value <;> rfl

/-- The macros for functions are called with the operation and one text. -/
theorem evaluateArguments_op {invoke : Invoke} {s : Scope} {v : Json}
    (hop : s.lookup ["op"] = some v) (name text : String) :
    evaluateArguments invoke s [("op", var "op"), (name, .literal (.string text))] =
      .ok [("op", v), (name, .string text)] := by
  simp only [evaluateArguments, var, evaluate_path hop, evaluate]

/-- The word that a function begins with. -/
def keyword : Mode → String
  | .blocking => "def"
  | .awaiting => "async def"

/-- The first line of a module. -/
def headerLine : String := "# Generated by " ++ generatorName ++ ". Do not edit by hand."

section Macros

variable {s : Scope} {mode : Mode} (hs : s.template = mode.clientTemplate) {depth : Nat}
include hs

theorem lays_header (hgenerator : s.lookup ["generator"] = some (.string generatorName)) :
    LaysNode (builtinLibrary.invokeAt (depth + 1)) s
      (callMacro "header" [("generator", var "generator")]) .fresh []
      (.outer headerLine.toList) := by
  have hvalues : evaluateArguments (builtinLibrary.invokeAt (depth + 1)) s
      [("generator", var "generator")] = .ok [("generator", .string generatorName)] := by
    simp only [evaluateArguments, var, evaluate_path hgenerator]
  refine .call (definition_macros hs rfl) hvalues rfl fun place => ?_
  refine .quiet (.begins (renderNode_text ..) (by decide) (by decide)) ?_
  refine .quiet (.grows (renderNode_print rfl) (by decide)) ?_
  refine .quiet (.grows (renderNode_text ..) (by decide)) ?_
  exact .nil

/-- The line that begins the head of a function. -/
def definitionLine (mode : Mode) (c : Call) : String := keyword mode ++ " " ++ c.functionName ++ "("

/-- The line that ends the head of a function. -/
def resultLine (c : Call) : String := ") -> " ++ returnHint c ++ ":"

/-- The outer lines of a function. -/
def signatureLines (mode : Mode) (c : Call) : List String := [definitionLine mode c, resultLine c]

theorem lays_signature {c : Call} (h : Inline c)
    (hop : s.lookup ["op"] = some (ClientFunction.ofCall mode c).toJson) :
    LaysNode (builtinLibrary.invokeAt (depth + 1)) s (signaturePart (keyword mode)) .fresh
      (signatureLines mode c) .fresh := by
  have hkeyword : OnOneLine (keyword mode).toList ∧ isOuter (keyword mode).toList = true := by
    cases mode <;> decide
  refine .call (definition_macros hs rfl) (evaluateArguments_op hop _ _) rfl fun place => ?_
  -- up to the parenthesis everything is part of one outer line
  refine .quiet (.begins (renderNode_print rfl) hkeyword.1 hkeyword.2) ?_
  refine .quiet (.grows (renderNode_text ..) (by decide)) ?_
  refine .quiet (.grows (renderNode_print rfl) h.functionName) ?_
  refine .line (.ends (renderNode_text ..) (t := "(") (by decide) ?_) ?_
  · rw [String.toList_append, String.toList_append, List.append_assoc]
    exact isOuter_append hkeyword.2 _
  refine .quiet (.each_quiet (evaluate_path rfl) fun parameter hparameter => ?_) ?_
  · refine .quiet (b := .inner) (.text rfl (by decide)) ?_
    refine .quiet (.inner (renderNode_print rfl) (h.parameters mode parameter hparameter)) ?_
    exact .quiet (.text rfl (by decide)) .nil
  refine .quiet (.begins (renderNode_text ..) (by decide) (by decide)) ?_
  refine .quiet (.grows (renderNode_print rfl) h.returnHint) ?_
  refine .line (.ends (renderNode_text ..) (t := ":") (by decide) ?_) ?_
  · rw [String.toList_append]
    exact isOuter_append (by decide) _
  -- a docstring may have line breaks of its own, but what follows them is indented
  refine .quiet (.choice (evaluate_path rfl) (fun _ => ?_) fun _ => .nil) .nil
  refine .quiet (b := .inner) (.text rfl (by decide)) ?_
  refine .quiet (.of_scan (renderNode_printOption rfl) h.scan_docstring) ?_
  exact .quiet (.text rfl (by decide)) .nil

theorem lays_arguments {c : Call} {indent : String}
    (hop : s.lookup ["op"] = some (ClientFunction.ofCall mode c).toJson)
    (hindent : scan .fresh indent.toList = ([], .inner)) :
    LaysNode (builtinLibrary.invokeAt (depth + 1)) s (argumentsPart indent) .fresh [] .fresh := by
  refine .call (definition_macros hs rfl) (evaluateArguments_op hop _ _) rfl fun place => ?_
  refine .quiet (.choice (evaluate_path rfl) (fun _ => ?_) fun _ => .nil) ?_
  · refine .quiet (.of_scan (renderNode_print rfl) hindent) ?_
    refine .quiet (.inner (renderNode_printOption rfl) (onOneLine_queryArgument c)) ?_
    exact .quiet (.text rfl (by decide)) .nil
  refine .quiet (.choice (evaluate_path rfl) (fun _ => ?_) fun _ => .nil) .nil
  · refine .quiet (.of_scan (renderNode_print rfl) hindent) ?_
    refine .quiet (.inner (renderNode_printOption rfl) (onOneLine_getD_bodyArgument c.body)) ?_
    exact .quiet (.text rfl (by decide)) .nil

/-- The heads of the functions for queries. -/
def queryLines : List String := ["def _query_params(params) -> dict:", "def _query_value(value):"]

theorem lays_query (hjson : s.lookup ["json_args"] = some (.string jsonArguments)) :
    LaysNode (builtinLibrary.invokeAt (depth + 1)) s
      (callMacro "query_helpers" [("json_args", var "json_args")]) .fresh queryLines .fresh := by
  have hvalues : evaluateArguments (builtinLibrary.invokeAt (depth + 1)) s
      [("json_args", var "json_args")] = .ok [("json_args", .string jsonArguments)] := by
    simp only [evaluateArguments, var, evaluate_path hjson]
  refine .call (definition_macros hs rfl) hvalues rfl fun place => ?_
  -- the texts are put together from the left, so they are taken apart from the right
  refine .line (b := .inner) ?_ ?_
  · refine .text_append_quiet (b := .fresh) ?_ (.text rfl (by decide +kernel))
    refine .text_append_quiet (b := .fresh) ?_ (.text rfl (by decide +kernel))
    refine .text_append_quiet (b := .fresh) ?_ (.text rfl (by decide +kernel))
    exact .text rfl (by decide +kernel)
  refine .quiet (.inner (renderNode_print rfl) (by decide)) ?_
  refine .line (b := .fresh) ?_ .nil
  refine .text_append_quiet (b := .fresh) ?_ (.text rfl (by decide +kernel))
  refine .text_append_quiet (b := .fresh) ?_ (.text rfl (by decide +kernel))
  refine .text_append_quiet (b := .fresh) ?_ (.text rfl (by decide +kernel))
  refine .text_quiet_append (b := .fresh) ?_ (.text rfl (by decide +kernel))
  iterate 5 refine .text_quiet_append (b := .fresh) ?_ (.text rfl (by decide +kernel))
  exact .text rfl (by decide +kernel)

end Macros

/-! ## Functions -/

section Functions

variable {s : Scope} {mode : Mode} {depth : Nat} {c : Call}

theorem renderNode_printUpper {invoke : Invoke} {path : List String} {text : String}
    (h : s.lookup path = some (.string text)) :
    renderNode invoke s (.print (.filtered (.path path) "upper")) =
      .ok (String.ofList (uppercaseAll text.toList)).toList := by
  rw [renderNode, evaluate, evaluate_path h]
  rfl

theorem lays_method {invoke : Invoke} {indent : String}
    (hindent : scan .fresh indent.toList = ([], .inner)) :
    LaysNode invoke (s.inLoop "op" (ClientFunction.ofCall mode c).toJson) (methodPart indent)
      .inner [] .inner := by
  have hname : OnOneLine c.method.name.toList := by cases c.method <;> decide
  have hupper : OnOneLine (String.ofList (uppercaseAll c.method.name.toList)).toList := by
    cases c.method <;> decide +kernel
  refine .choice (evaluate_path (lookup_inLoop rfl)) (fun _ => ?_) fun _ => ?_
  · refine .quiet (.inner (renderNode_print (lookup_inLoop rfl)) hname) ?_
    exact .quiet (.text rfl (by decide)) .nil
  · refine .quiet (b := .inner) ?_ ?_
    · refine .text_append_quiet (b := .inner) ?_ (.text rfl (by decide))
      exact .text_append_quiet (b := .fresh) (.text rfl (by decide))
        (.of_scan (renderNode_text ..) hindent)
    refine .quiet (.inner (renderNode_printUpper (lookup_inLoop rfl)) hupper) ?_
    exact .quiet (.text rfl (by decide)) .nil

/-- A function, whatever fixed texts stand between its parts, as long as they stay inside. -/
theorem lays_function (hs : s.template = mode.clientTemplate) (h : Inline c)
    {indent setup gap options success failure stop : String}
    (hindent : scan .fresh indent.toList = ([], .inner))
    (hsetup : ∀ {invoke s}, LaysNode invoke s (.text setup) .inner [] .inner)
    (hgap : ∀ {invoke s}, LaysNode invoke s (.text gap) .inner [] .fresh)
    (hoptions : ∀ {invoke s}, LaysNode invoke s (.text options) .fresh [] .fresh)
    (hsuccess : ∀ {invoke s}, LaysNode invoke s (.text success) .fresh [] .inner)
    (hfailure : ∀ {invoke s}, LaysNode invoke s (.text failure) .inner [] .fresh)
    (hstop : ∀ {invoke s}, LaysNode invoke s (.text stop) .fresh [] .fresh) :
    Lays (builtinLibrary.invokeAt (depth + 1))
      (s.inLoop "op" (ClientFunction.ofCall mode c).toJson)
      [.text "\n\n", signaturePart (keyword mode), .text "    url = ",
        putMember "op" "url_expression", .text setup, methodPart indent, .text gap,
        argumentsPart indent, .text options,
        .choice (member "op" "return_expression")
          [.text success, putMember "op" "return_expression", .text failure] [.text stop]]
      .fresh (signatureLines mode c) .fresh := by
  have hinner : (s.inLoop "op" (ClientFunction.ofCall mode c).toJson).template =
      mode.clientTemplate := hs
  refine .quiet (b := .fresh) (.text rfl (by decide)) ?_
  refine .append_quiet (lays_signature hinner h rfl) ?_
  refine .quiet (b := .inner) (.text rfl (by decide)) ?_
  refine .quiet (.inner (renderNode_print (lookup_inLoop rfl)) (onOneLine_urlExpression c)) ?_
  refine .quiet hsetup ?_
  refine .quiet (lays_method hindent) ?_
  refine .quiet hgap ?_
  refine .quiet (lays_arguments hinner rfl hindent) ?_
  refine .quiet hoptions ?_
  refine .quiet (.choice (evaluate_path (lookup_inLoop rfl)) (fun _ => ?_) fun _ => ?_) .nil
  · refine .quiet hsuccess ?_
    refine .quiet (.inner (renderNode_printOption (lookup_inLoop rfl))
      (h.returnExpression mode)) ?_
    exact .quiet hfailure .nil
  · exact .quiet hstop .nil

theorem lays_blockingPart (hs : s.template = Mode.blocking.clientTemplate) (h : Inline c) :
    Lays (builtinLibrary.invokeAt (depth + 1))
      (s.inLoop "op" (ClientFunction.ofCall .blocking c).toJson) blockingPart
      .fresh (signatureLines .blocking c) .fresh := by
  refine lays_function hs h (by decide) ?_ (.text rfl (by decide)) ?_
    (.text rfl (by decide +kernel)) (.text rfl (by decide)) (.text rfl (by decide +kernel))
  · intro invoke s
    iterate 2 refine .text_append_quiet (b := .fresh) ?_ (.text rfl (by decide +kernel))
    exact .text rfl (by decide +kernel)
  · intro invoke s
    iterate 3 refine .text_append_quiet (b := .fresh) ?_ (.text rfl (by decide))
    exact .text rfl (by decide)

theorem lays_awaitingPart (hs : s.template = Mode.awaiting.clientTemplate) (h : Inline c) :
    Lays (builtinLibrary.invokeAt (depth + 1))
      (s.inLoop "op" (ClientFunction.ofCall .awaiting c).toJson) awaitingPart
      .fresh (signatureLines .awaiting c) .fresh := by
  refine lays_function hs h (by decide) ?_ (.text rfl (by decide)) ?_
    (.text rfl (by decide +kernel)) (.text rfl (by decide)) (.text rfl (by decide +kernel))
  · intro invoke s
    iterate 2 refine .text_append_quiet (b := .fresh) ?_ (.text rfl (by decide +kernel))
    exact .text rfl (by decide +kernel)
  · intro invoke s
    iterate 2 refine .text_append_quiet (b := .fresh) ?_ (.text rfl (by decide))
    exact .text rfl (by decide)

end Functions

/-! ## Client module -/

/-- The functions of a client module. -/
def functionPart : Mode → List Node
  | .blocking => blockingPart
  | .awaiting => awaitingPart

/-- The line that imports the HTTP library. -/
def libraryLine (mode : Mode) : String := "import " ++ mode.httpLibrary

/-- The line that begins the import of the models. -/
def schemaLine (s : Settings) : String := "from ." ++ s.schemaModule ++ " import ("

/-- The lines that begin and end the import of the models, if there are any. -/
def modelLines (p : TypedClient.Plan) (s : Settings) : List String :=
  if p.clientImports.models.isEmpty then [] else [schemaLine s, ")"]

/-- The line with the address of the service. -/
def baseUrlLine (p : TypedClient.Plan) : String := "BASE_URL = " ++ Lexical.quote p.baseUrl

/-- The outer lines of the client module. -/
def clientOutline (p : TypedClient.Plan) (s : Settings) : List String :=
  headerLine :: (clientLines p.clientImports ++ (libraryLine p.mode :: (modelLines p s ++
    (baseUrlLine p :: ((if p.clientImports.query then queryLines else []) ++
      p.calls.flatMap (signatureLines p.mode))))))

def isImport (line : List Char) : Bool :=
  "import ".toList.isPrefixOf line || "from ".toList.isPrefixOf line

/-- A line that imports names. -/
structure IsImportLine (line : List Char) : Prop where
  onOneLine : OnOneLine line
  isOuter : isOuter line = true
  isImport : isImport line = true
  trimEnd_eq : trimEnd line = line

instance (line : List Char) : Decidable (IsImportLine line) :=
  decidable_of_iff (OnOneLine line ∧ isOuter line = true ∧ isImport line = true ∧
    trimEnd line = line) ⟨fun h => ⟨h.1, h.2.1, h.2.2.1, h.2.2.2⟩, fun h => ⟨h.1, h.2, h.3, h.4⟩⟩

theorem isImportLine_of_mem_clientLines (i : ClientImports) :
    ∀ line ∈ clientLines i, IsImportLine line.toList := by
  have hjson : ∀ json : Bool, ∀ line ∈ needed [(json, "import json")],
      IsImportLine line.toList := by
    decide +kernel
  have hdatetime : ∀ date datetime : Bool,
      ∀ line ∈ fromLine "datetime" (needed [(date, "date"), (datetime, "datetime")]),
        IsImportLine line.toList := by
    decide +kernel
  have htyping : ∀ any dict list : Bool,
      ∀ line ∈ fromLine "typing" (needed [(any, "Any"), (dict, "Dict"), (list, "List"),
        (true, "Optional")]), IsImportLine line.toList := by
    decide +kernel
  unfold clientLines
  simp only [List.forall_mem_append]
  exact ⟨⟨hjson i.json, hdatetime i.date i.datetime⟩, htyping i.any i.dict i.list⟩

section Module

variable {p : TypedClient.Plan} {s : Settings} {depth : Nat}

theorem isTrue_textsJson (texts : List String) : isTrue (textsJson texts) = !texts.isEmpty := by
  cases texts <;> rfl

theorem lays_modelImport {invoke : Invoke} {scope : Scope}
    (hmodels : scope.lookup ["client_models"] = some (textsJson p.clientImports.models))
    (hmodule : scope.lookup ["schema_module"] = some (.string s.schemaModule))
    (hnames : ∀ name ∈ p.clientImports.models, OnOneLine name.toList)
    (hschema : OnOneLine s.schemaModule.toList) :
    LaysNode invoke scope (onlyIf (var "client_models") [
      .text "\nfrom .", put "schema_module", .text " import (\n",
      forEach "name" (var "client_models") [.text "    ", put "name", .text ",\n"],
      .text ")\n"]) .fresh (modelLines p s) .fresh := by
  refine .choice (evaluate_path hmodels) (fun htrue => ?_) fun hfalse => ?_
  · rw [isTrue_textsJson, Bool.not_eq_true'] at htrue
    rw [modelLines, htrue, if_neg Bool.false_ne_true]
    refine .quiet (b := .outer "from .".toList) (.text rfl (by decide)) ?_
    refine .quiet (.grows (renderNode_print hmodule) hschema) ?_
    refine .line (.ends (renderNode_text ..) (t := " import (") (by decide) ?_) ?_
    · rw [String.toList_append]
      exact isOuter_append (by decide) _
    refine .quiet (.each_quiet (evaluate_path hmodels) fun name hname => ?_) ?_
    · refine .quiet (b := .inner) (.text rfl (by decide)) ?_
      refine .quiet (.inner (renderNode_print rfl) (hnames name hname)) ?_
      exact .quiet (.text rfl (by decide)) .nil
    exact .line (.text rfl (by decide)) .nil
  · rw [isTrue_textsJson, Bool.not_eq_false'] at hfalse
    rw [modelLines, hfalse, if_pos rfl]
    exact .nil

theorem lays_functionPart {scope : Scope} {mode : Mode}
    (hscope : scope.template = mode.clientTemplate) {c : Call} (h : Inline c) :
    Lays (builtinLibrary.invokeAt (depth + 1))
      (scope.inLoop "op" (ClientFunction.ofCall mode c).toJson) (functionPart mode)
      .fresh (signatureLines mode c) .fresh := by
  cases mode with
  | blocking => exact lays_blockingPart hscope h
  | awaiting => exact lays_awaitingPart hscope h

theorem lays_clientTemplate (hcalls : ∀ c ∈ p.calls, Inline c)
    (hnames : ∀ name ∈ p.clientImports.models, OnOneLine name.toList)
    (hschema : OnOneLine s.schemaModule.toList) :
    Lays (builtinLibrary.invokeAt (depth + 1))
      ⟨[], templateValues p s, p.mode.clientTemplate, ""⟩
      (clientTemplate (functionPart p.mode)).nodes .fresh (clientOutline p s) .fresh := by
  have hlines : (clientLines p.clientImports).flatMap (fun line => [line]) =
      clientLines p.clientImports := List.flatMap_singleton' _
  have hlibrary : OnOneLine p.mode.httpLibrary.toList := by cases p.mode <;> decide
  refine .quiet (lays_header rfl rfl) ?_
  refine .line (b := .fresh) (.text rfl (by decide +kernel)) ?_
  -- the loop lays one line at a time
  rw [← hlines]
  refine .append (.each (evaluate_path rfl) fun line hline => ?_) ?_
  · have hline := isImportLine_of_mem_clientLines _ line hline
    refine .quiet (.begins (renderNode_print rfl) hline.onOneLine hline.isOuter) ?_
    exact .line (.breaks hline.isOuter) .nil
  refine .quiet (b := .outer "import ".toList) (.text rfl (by decide)) ?_
  refine .quiet (.grows (renderNode_print rfl) hlibrary) ?_
  refine .line (.breaks ?_) ?_
  · rw [String.toList_append]
    exact isOuter_append (by decide) _
  refine .append (lays_modelImport rfl rfl hnames hschema) ?_
  refine .quiet (b := .outer "BASE_URL = ".toList) (.text rfl (by decide)) ?_
  refine .quiet (.grows (renderNode_print rfl) (onOneLine_quote _)) ?_
  refine .line (.breaks ?_) ?_
  · rw [String.toList_append]
    exact isOuter_append (by decide) _
  refine .append (b := .fresh) (.choice (evaluate_path rfl) (fun htrue => ?_) fun hfalse => ?_) ?_
  · have hquery : p.clientImports.query = true := htrue
    rw [if_pos hquery]
    exact .append_quiet (lays_query rfl rfl) .nil
  · have hquery : p.clientImports.query = false := hfalse
    rw [hquery, if_neg Bool.false_ne_true]
    exact .nil
  refine .append_quiet (.each (evaluate_path rfl) fun c hc => ?_) ?_
  · exact lays_functionPart rfl (hcalls c hc)
  exact .quiet (.text rfl (by decide)) .nil

end Module

end TypedClient.Render
