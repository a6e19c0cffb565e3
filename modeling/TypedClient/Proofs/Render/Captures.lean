import TypedClient.Proofs.Render.Docstrings
import TypedClient.Proofs.Render.Imports
import TypedClient.Proofs.Render.UrlExpressions

/-!
# Names in functions

The text of a function taken apart by how its words are looked up (`functionWords`): arguments for
the path, what the function binds besides, what it takes from its module, and text in which nothing
is looked up. Side by side the words are what the built-in templates render for a call
(`renderNodes_functionPart`). Pieces of code tell what has to be imported, and words what a name in
the body belongs to.

An argument for the path never has the name of another parameter, of a variable or of a module that
the function uses. The function for queries and the class of the result are not among the names that
arguments avoid, and they are the only ones that an argument can capture (`capturesNothing_iff`).
-/

namespace TypedClient.Render

open Client (Mode Settings)
open OpenApi (Document Method Operation)
open Plan Plan.Claiming
open Template

/-! ## Words of code -/

/-- Whether a word is no name: a keyword, an attribute behind its dot, the name of an argument in
front of its equals sign, or the variable of a comprehension, which nothing outside of it sees. -/
def isInert (word : List Char) : Bool :=
  Lexical.isKeyword (String.ofList word) || word.isEmpty || word.head? == some '.' ||
    word.getLast? == some '=' || word == ['i', 't', 'e', 'm']

/-- Whether no name stands in the text. -/
def isNameless (text : String) : Bool :=
  (Text.splitAt (fun c => !(Lexical.isIdentifierChar c || c == '.' || c == '=')) text.toList).all
    isInert

/-- A word of a function, or text between words. -/
inductive Word where
  /-- An argument for the path. -/
  | argument (name : String)
  /-- Another parameter, or a variable that the function binds. -/
  | own (name : String)
  /-- What the function takes from its module. -/
  | outer (name : String)
  /-- Punctuation and words that are no names. -/
  | mark (text : String) (nameless : isNameless text = true := by decide)
  /-- What depends on the call and is not looked up in the function: annotations, which belong to
  the module, the function's own name, its docstring, the method and what stands in quotes. -/
  | literal (text : String)

namespace Word

/-- The word as it is written. -/
def text : Word → String
  | argument name => name
  | own name => name
  | outer name => name
  | mark text _ => text
  | literal text => text

/-- The words as they are written, side by side. -/
def joined : List Word → String
  | [] => ""
  | w :: words => w.text ++ joined words

/-- The name that an argument must not have. -/
def name? : Word → Option String
  | own name => some name
  | outer name => some name
  | _ => none

/-- The names that an argument must not have. -/
def names (words : List Word) : List String := words.filterMap name?

@[simp]
theorem joined_nil : joined [] = "" := rfl

@[simp]
theorem joined_cons (w : Word) (words : List Word) :
    joined (w :: words) = w.text ++ joined words := rfl

@[simp]
theorem joined_append (a b : List Word) : joined (a ++ b) = joined a ++ joined b := by
  induction a with
  | nil => simp
  | cons w a ih => simp [ih, String.append_assoc]

@[simp]
theorem names_nil : names [] = [] := rfl

@[simp]
theorem names_append (a b : List Word) : names (a ++ b) = names a ++ names b :=
  List.filterMap_append

@[simp]
theorem names_flatMap {α : Type} (f : α → List Word) (xs : List α) :
    names (xs.flatMap f) = xs.flatMap fun x => names (f x) :=
  List.filterMap_flatMap

@[simp]
theorem names_argument (name : String) (words : List Word) :
    names (argument name :: words) = names words := rfl

@[simp]
theorem names_own (name : String) (words : List Word) :
    names (own name :: words) = name :: names words := rfl

@[simp]
theorem names_outer (name : String) (words : List Word) :
    names (outer name :: words) = name :: names words := rfl

@[simp]
theorem names_mark (text : String) (h : isNameless text = true) (words : List Word) :
    names (mark text h :: words) = names words := rfl

@[simp]
theorem names_literal (text : String) (words : List Word) :
    names (literal text :: words) = names words := rfl

end Word

/-! ## Words of functions -/

/-- The white space in front of the arguments of a request. -/
def indentWord : Mode → Word
  | .blocking => .mark "        "
  | .awaiting => .mark "            "

/-- The parameter for the way of requests. -/
def proxyWords : Mode → List Word
  | .blocking => [.own "proxies", .literal ": Optional[dict] = None"]
  | .awaiting => [.own "proxy", .literal ": Optional[str] = None"]

/-- The parameters of a function. -/
def parameterWords (c : Call) (mode : Mode) : List (List Word) :=
  (match c.body with
    | some type => [[.own "req_data", .literal (": " ++ typeHint type)], [.mark "/"]]
    | none => []) ++
  c.pathParameters.map (fun p => [.argument p.name, .literal (": " ++ p.type.hint)]) ++
  [[.mark "*"]] ++
  (match c.queryModel with
    | some name => [[.own "params", .literal (": " ++ name)]]
    | none => []) ++
  [[.own "headers", .literal ": Optional[dict] = None"], proxyWords mode,
    [.mark "**", .own "kwargs"]]

/-- The head of a function with its docstring. -/
def signatureWords (mode : Mode) (c : Call) : List Word :=
  .literal (keyword mode ++ " " ++ c.functionName ++ "(\n") ::
    ((parameterWords c mode).flatMap fun words => .mark "    " :: (words ++ [.mark ",\n"])) ++
    [.literal (") -> " ++ returnHint c ++ ":\n"),
      .literal (String.ofList (docstringLines (functionDocstring c)))]

/-- The expression for the address. What stands between its quotes are the arguments' own names, if
anything is looked up there. -/
def urlWords (c : Call) : List Word :=
  if c.shape.isTemplate then
    [.literal "f\"\x7b", .outer baseUrlName,
      .literal ("\x7d" ++ String.ofList (Lexical.escapeText c.urlTemplate.toList) ++ "\"")]
  else [.outer baseUrlName, .mark " + ", .literal (Lexical.quote c.urlTemplate)]

/-- What a function does up to the request. -/
def setupWords : Mode → List Word
  | .blocking => [
    .mark "\n    ", .own "headers_", .mark " = ", .own "headers", .mark " if ", .own "headers",
    .mark " is not None else \x7b\x7d\n",
    .mark "    ", .own "proxies_", .mark " = ", .own "proxies", .mark " if ", .own "proxies",
    .mark " is not None else \x7b\x7d\n",
    .mark "\n    ", .own "response_obj", .mark " = ", .outer "requests", .mark "."]
  | .awaiting => [
    .mark "\n    ", .own "headers_", .mark " = ", .own "headers", .mark " if ", .own "headers",
    .mark " is not None else \x7b\x7d\n",
    .mark "\n    async with ", .outer "aiohttp", .mark ".ClientSession(headers=", .own "headers_",
    .mark ") as ", .own "session", .mark ":\n        async with ", .own "session", .mark "."]

/-- The method of a call: a function of its own, or the first argument of the general one. -/
def methodText (mode : Mode) (c : Call) : String :=
  if c.method != Method.trace then c.method.name ++ "("
  else "request(\n" ++ (indentWord mode).text ++ "\"" ++
    String.ofList (Text.uppercaseAll c.method.name.toList) ++ "\","

/-- The argument for the query. -/
def queryWords (c : Call) : Option (List Word) :=
  if c.shape.hasQuery then
    some [.mark "params=", .outer "_query_params", .mark "(", .own "params", .mark ")"]
  else none

/-- The argument for the body. -/
def bodyWords : TypeRef → List Word
  | .model _ => [
    .mark "json=", .outer "json", .mark ".loads(", .own "req_data", .mark ".json(",
    .literal jsonArguments, .mark "))"]
  | .modelList _ => [
    .mark "json=[", .outer "json", .mark ".loads(item", .mark ".json(", .literal jsonArguments,
    .mark ")) for item in ", .own "req_data", .mark "]"]
  | _ => [.mark "json=", .own "req_data"]

/-- An argument of a request on a line of its own. -/
def argumentLine (mode : Mode) (words : Option (List Word)) : List Word :=
  match words with
  | some words => indentWord mode :: (words ++ [.mark ",\n"])
  | none => []

/-- The remaining arguments of a request. -/
def optionWords : Mode → List Word
  | .blocking => [
    .mark "        headers=", .own "headers_", .mark ",\n", .mark "        proxies=",
    .own "proxies_", .mark ",\n", .mark "        **", .own "kwargs", .mark ",\n", .mark "    )\n\n"]
  | .awaiting => [
    .mark "            proxy=", .own "proxy", .mark ",\n", .mark "            **", .own "kwargs",
    .mark ",\n", .mark "        ) as ", .own "response_obj", .mark ":\n"]

/-- The expression for what the service answered. -/
def payloadWords : Mode → List Word
  | .blocking => [.own "response_obj", .mark ".json()"]
  | .awaiting => [.mark "await ", .own "response_obj", .mark ".json()"]

/-- The expression for the result. -/
def returnWords (type : TypeRef) (mode : Mode) : List Word :=
  match type with
  | .model name => [.outer name, .mark ".parse_obj("] ++ payloadWords mode ++ [.mark ")"]
  | .modelList name =>
    [.mark "[", .outer name, .mark ".parse_obj(item) for item in "] ++ payloadWords mode ++
      [.mark "]"]
  | _ => payloadWords mode

/-- What stands in front of the expression for the result. -/
def successWords : Mode → List Word
  | .blocking => [.mark "    if ", .own "response_obj", .mark ".ok:\n        return "]
  | .awaiting => [
    .mark "            if ", .own "response_obj", .mark ".ok:\n                return "]

/-- What stands behind the expression for the result. -/
def failureWord : Mode → Word
  | .blocking => .mark "\n    return None\n"
  | .awaiting => .mark "\n            return None\n"

/-- The statement in place of a result. -/
def raiseWords : Mode → List Word
  | .blocking => [.mark "    ", .own "response_obj", .mark ".raise_for_status()\n"]
  | .awaiting => [.mark "            ", .own "response_obj", .mark ".raise_for_status()\n"]

/-- What a function does with the response. -/
def resultWords (mode : Mode) (response : Option TypeRef) : List Word :=
  match response with
  | some type => successWords mode ++ returnWords type mode ++ [failureWord mode]
  | none => raiseWords mode

/-- A function, word by word. -/
def functionWords (mode : Mode) (c : Call) : List Word :=
  .mark "\n\n" :: signatureWords mode c ++ [.mark "    ", .own "url", .mark " = "] ++ urlWords c ++
    setupWords mode ++ [.literal (methodText mode c)] ++
    [.mark "\n", indentWord mode, .own "url", .mark ",\n"] ++
    argumentLine mode (queryWords c) ++ argumentLine mode (c.body.map bodyWords) ++
    optionWords mode ++ resultWords mode c.response

/-! ## Rendering -/

section Texts

open Word

theorem joined_parameterWords (c : Call) (mode : Mode) :
    (parameterWords c mode).map joined = parameters c mode := by
  have hpath : (c.pathParameters.map fun p =>
      [Word.argument p.name, .literal (": " ++ p.type.hint)]).map joined =
      c.pathParameters.map fun p => p.name ++ ": " ++ p.type.hint := by
    simp [Word.text, String.append_assoc]
  have hproxy : joined (proxyWords mode) = proxyParameter mode := by cases mode <;> decide
  unfold parameterWords parameters
  rw [List.map_append, List.map_append, List.map_append, List.map_append, hpath]
  cases c.body <;> cases c.queryModel <;> simp [hproxy, Word.text, ← String.append_assoc]

theorem toList_joined_signatureWords (mode : Mode) (c : Call) :
    (joined (signatureWords mode c)).toList =
      signatureHead mode c ++ docstringLines (functionDocstring c) := by
  have hlines : ∀ parameters : List (List Word),
      (joined (parameters.flatMap fun words => .mark "    " :: (words ++ [.mark ",\n"]))).toList =
        (parameters.map joined).flatMap fun parameter => ("    " ++ parameter ++ ",\n").toList := by
    intro parameters
    induction parameters with
    | nil => rfl
    | cons words parameters ih => simp [ih, Word.text]
  simp [signatureWords, signatureHead, hlines, joined_parameterWords, Word.text]

theorem joined_urlWords (c : Call) : joined (urlWords c) = urlExpression c := by
  unfold urlWords urlExpression
  split <;> simp [Word.text, ← String.append_assoc]

theorem joined_queryWords (c : Call) : (queryWords c).map joined = queryArgument c := by
  unfold queryWords queryArgument
  split <;> simp [Word.text]

theorem joined_bodyWords (type : TypeRef) : joined (bodyWords type) = bodyArgument type := by
  unfold bodyWords bodyArgument
  cases type <;> simp [Word.text, ← String.append_assoc]

theorem joined_payloadWords (mode : Mode) : joined (payloadWords mode) = payload mode := by
  cases mode <;> decide

theorem joined_returnWords (type : TypeRef) (mode : Mode) :
    joined (returnWords type mode) = returnExpression type mode := by
  cases type <;>
    simp [returnWords, returnExpression, joined_payloadWords, Word.text, ← String.append_assoc]

end Texts

section Templates

variable {invoke : Invoke} {s : Scope} {mode : Mode} {c : Call}

theorem renderNode_methodPart :
    renderNode invoke (s.inLoop "op" (ClientFunction.ofCall mode c).toJson)
      (methodPart (indentWord mode).text) = .ok (methodText mode c).toList := by
  have hshortcut : (s.inLoop "op" (ClientFunction.ofCall mode c).toJson).lookup
      ["op", "has_shortcut"] = some (.bool (c.method != Method.trace)) := lookup_inLoop rfl
  have hmethod : (s.inLoop "op" (ClientFunction.ofCall mode c).toJson).lookup ["op", "method"] =
      some (.string c.method.name) := lookup_inLoop rfl
  refine (renderNode_choice (evaluate_path hshortcut) _ _).trans ?_
  change (if (c.method != Method.trace) = true then _ else _) = _
  rw [methodText]
  split
  · refine (renderNodes_cons (renderNode_print hmethod) <|
      renderNodes_cons (renderNode_text _ _ _) (renderNodes_nil _ _)).trans (congrArg Except.ok ?_)
    simp only [String.toList_append, List.append_nil]
  · refine (renderNodes_cons (renderNode_text _ _ _) <|
      renderNodes_cons (renderNode_printUpper hmethod) <|
      renderNodes_cons (renderNode_text _ _ _) (renderNodes_nil _ _)).trans (congrArg Except.ok ?_)
    simp only [String.toList_append, List.append_assoc, List.append_nil]

/-- An argument of a request, if there is one. -/
theorem renderNode_argumentLine {key : String} {words : Option (List Word)}
    {value : Option String} (hwords : words.map Word.joined = value) (hvalue : value ≠ some "")
    (hindent : s.lookup ["indent"] = some (.string (indentWord mode).text))
    (h : s.lookup ["op", key] = some (optionJson value)) :
    renderNode invoke s
      (onlyIf (member "op" key) [put "indent", putMember "op" key, .text ",\n"]) =
      .ok (Word.joined (argumentLine mode words)).toList := by
  refine (renderNode_optional hvalue h _ _).trans ?_
  subst hwords
  cases words with
  | none => exact renderNodes_nil invoke s
  | some words =>
      refine (renderNodes_cons (renderNode_print hindent) <|
        renderNodes_cons (renderNode_print h) <|
        renderNodes_cons (renderNode_text _ _ _) (renderNodes_nil _ _)).trans
          (congrArg Except.ok ?_)
      simp [argumentLine, Word.text]

theorem queryArgument_ne_empty : queryArgument c ≠ some "" := by
  unfold queryArgument
  split <;> decide

theorem bodyArgument_ne_empty (body : Option TypeRef) : body.map bodyArgument ≠ some "" := by
  cases body with
  | none => simp
  | some type =>
      unfold bodyArgument
      cases type <;> simp

theorem returnExpression_ne_empty (response : Option TypeRef) :
    (response.map fun type => returnExpression type mode) ≠ some "" := by
  cases response with
  | none => simp
  | some type => cases type <;> cases mode <;> simp [returnExpression, payload]

theorem renderNode_argumentsPart (hs : s.template = mode.clientTemplate) (depth : Nat)
    (hop : s.lookup ["op"] = some (ClientFunction.ofCall mode c).toJson) :
    renderNode (builtinLibrary.invokeAt (depth + 1)) s (argumentsPart (indentWord mode).text) =
      .ok (Word.joined (argumentLine mode (queryWords c) ++
        argumentLine mode (c.body.map bodyWords))).toList := by
  have hbody : (c.body.map bodyWords).map Word.joined = c.body.map bodyArgument := by
    rw [Option.map_map]
    exact Option.map_congr fun type _ => joined_bodyWords type
  refine renderNode_call (definition_macros hs rfl) (evaluateArguments_op hop _ _) rfl ?_
  refine (renderNodes_cons (renderNode_argumentLine (joined_queryWords c) queryArgument_ne_empty
      rfl rfl) <|
    renderNodes_cons (renderNode_argumentLine hbody (bodyArgument_ne_empty c.body) rfl rfl)
      (renderNodes_nil _ _)).trans (congrArg Except.ok ?_)
  simp only [Word.joined_append, String.toList_append, List.append_nil]

theorem renderNode_resultPart :
    renderNode invoke (s.inLoop "op" (ClientFunction.ofCall mode c).toJson)
      (.choice (member "op" "return_expression")
        [.text (Word.joined (successWords mode)), putMember "op" "return_expression",
          .text (failureWord mode).text]
        [.text (Word.joined (raiseWords mode))]) =
      .ok (Word.joined (resultWords mode c.response)).toList := by
  have hreturn : (s.inLoop "op" (ClientFunction.ofCall mode c).toJson).lookup
      ["op", "return_expression"] =
        some (optionJson (c.response.map fun type => returnExpression type mode)) :=
    lookup_inLoop rfl
  refine (renderNode_optional (returnExpression_ne_empty c.response) hreturn _ _).trans ?_
  cases hresponse : c.response with
  | none =>
      rw [Option.map_none, Option.elim_none]
      refine (renderNodes_cons (renderNode_text _ _ _) (renderNodes_nil _ _)).trans ?_
      rw [List.append_nil]
      rfl
  | some type =>
      rw [hresponse, Option.map_some] at hreturn
      rw [Option.map_some, Option.elim_some]
      refine (renderNodes_cons (renderNode_text _ _ _) <|
        renderNodes_cons (renderNode_print hreturn) <|
        renderNodes_cons (renderNode_text _ _ _) (renderNodes_nil _ _)).trans
          (congrArg Except.ok ?_)
      simp [resultWords, joined_returnWords]

/-- A function is rendered word by word, if the fixed texts between its parts are their words. -/
theorem renderNodes_functionParts (hs : s.template = mode.clientTemplate) (depth : Nat)
    (hne : functionDocstring c ≠ some "") {url setup gap options success failure stop : String}
    {indent : String} (hindent : indent = (indentWord mode).text)
    (hurl : url = Word.joined [.mark "    ", .own "url", .mark " = "])
    (hsetup : setup = Word.joined (setupWords mode))
    (hgap : gap = Word.joined [.mark "\n", indentWord mode, .own "url", .mark ",\n"])
    (hoptions : options = Word.joined (optionWords mode))
    (hsuccess : success = Word.joined (successWords mode))
    (hfailure : failure = (failureWord mode).text) (hstop : stop = Word.joined (raiseWords mode)) :
    renderNodes (builtinLibrary.invokeAt (depth + 1))
      (s.inLoop "op" (ClientFunction.ofCall mode c).toJson)
      [.text "\n\n", signaturePart (keyword mode), .text url, putMember "op" "url_expression",
        .text setup, methodPart indent, .text gap, argumentsPart indent, .text options,
        .choice (member "op" "return_expression")
          [.text success, putMember "op" "return_expression", .text failure] [.text stop]] =
      .ok (Word.joined (functionWords mode c)).toList := by
  subst hindent hurl hsetup hgap hoptions hsuccess hfailure hstop
  have hinner : (s.inLoop "op" (ClientFunction.ofCall mode c).toJson).template =
      mode.clientTemplate := hs
  have hexpression : (s.inLoop "op" (ClientFunction.ofCall mode c).toJson).lookup
      ["op", "url_expression"] = some (.string (urlExpression c)) := lookup_inLoop rfl
  refine (renderNodes_cons (renderNode_text _ _ _) <|
    renderNodes_cons (renderNode_signaturePart hinner depth hne rfl) <|
    renderNodes_cons (renderNode_text _ _ _) <|
    renderNodes_cons (renderNode_print hexpression) <|
    renderNodes_cons (renderNode_text _ _ _) <|
    renderNodes_cons renderNode_methodPart <|
    renderNodes_cons (renderNode_text _ _ _) <|
    renderNodes_cons (renderNode_argumentsPart hinner depth rfl) <|
    renderNodes_cons (renderNode_text _ _ _) <|
    renderNodes_cons renderNode_resultPart (renderNodes_nil _ _)).trans (congrArg Except.ok ?_)
  rw [functionWords, ← toList_joined_signatureWords, ← joined_urlWords]
  simp [Word.text]

/-- The built-in templates render a function word by word. -/
theorem renderNodes_functionPart (hs : s.template = mode.clientTemplate) (depth : Nat)
    (hne : functionDocstring c ≠ some "") :
    renderNodes (builtinLibrary.invokeAt (depth + 1))
      (s.inLoop "op" (ClientFunction.ofCall mode c).toJson) (functionPart mode) =
      .ok (Word.joined (functionWords mode c)).toList := by
  -- in either mode the fixed texts of the template are those of the words
  cases mode <;>
    exact renderNodes_functionParts hs depth hne (by decide +kernel) (by decide +kernel)
      (by decide +kernel) (by decide +kernel) (by decide +kernel) (by decide +kernel)
      (by decide +kernel) (by decide +kernel)

end Templates

/-! ## Names of functions -/

section Names

open Word

variable {mode : Mode} {c : Call} {name : String}

/-- What a function uses in any case and arguments avoid. -/
def modeNames : Mode → List String
  | .blocking =>
    ["headers", "proxies", "kwargs", "url", "headers_", "proxies_", "requests", "response_obj"]
  | .awaiting =>
    ["headers", "proxy", "kwargs", "url", "headers_", "aiohttp", "session", "response_obj"]

theorem mem_modeNames : name ∈ modeNames mode ↔ name = "headers" ∨ name ∈ names (proxyWords mode) ∨
    name = "kwargs" ∨ name = "url" ∨ name ∈ names (setupWords mode) ∨
    name ∈ names (optionWords mode) ∨ name = "response_obj" := by
  cases mode <;> simp [modeNames, proxyWords, setupWords, optionWords] <;> grind

theorem names_signatureWords (mode : Mode) (c : Call) :
    names (signatureWords mode c) =
      (if c.body.isSome then ["req_data"] else []) ++
        (if c.queryModel.isSome then ["params"] else []) ++
        "headers" :: (names (proxyWords mode) ++ ["kwargs"]) := by
  unfold signatureWords parameterWords
  cases c.body <;> cases c.queryModel <;> simp [List.flatMap_map]

theorem names_urlWords (c : Call) : names (urlWords c) = [baseUrlName] := by
  unfold urlWords
  split <;> simp

theorem names_argumentLine (mode : Mode) (words : Option (List Word)) :
    names (argumentLine mode words) = names (words.getD []) := by
  cases words <;> cases mode <;> simp [argumentLine, indentWord]

theorem names_queryWords (c : Call) :
    names ((queryWords c).getD []) =
      if c.shape.hasQuery then ["_query_params", "params"] else [] := by
  unfold queryWords
  split <;> simp

theorem names_bodyWords (c : Call) : names ((c.body.map bodyWords).getD []) =
    (if c.sendsModel then ["json"] else []) ++ (if c.body.isSome then ["req_data"] else []) := by
  unfold Call.sendsModel
  cases c.body with
  | none => rfl
  | some type => cases type <;> simp [bodyWords, TypeRef.model?]

theorem names_returnWords (type : TypeRef) (mode : Mode) :
    names (returnWords type mode) = type.model?.toList ++ ["response_obj"] := by
  cases type <;> cases mode <;> simp [returnWords, payloadWords, TypeRef.model?]

theorem mem_names_resultWords (mode : Mode) (response : Option TypeRef) :
    name ∈ names (resultWords mode response) ↔
      name = "response_obj" ∨ response.bind TypeRef.model? = some name := by
  cases response with
  | none => cases mode <;> simp [resultWords, raiseWords]
  | some type =>
      cases mode <;> simp [resultWords, successWords, failureWord, names_returnWords] <;> tauto

theorem names_functionWords (mode : Mode) (c : Call) : names (functionWords mode c) =
    names (signatureWords mode c) ++ "url" :: baseUrlName :: (names (setupWords mode) ++
      "url" :: (names ((queryWords c).getD []) ++ (names ((c.body.map bodyWords).getD []) ++
        (names (optionWords mode) ++ names (resultWords mode c.response))))) := by
  cases mode <;> simp [functionWords, names_argumentLine, names_urlWords, indentWord]

/-- The names of a function: those that it uses in any case, what belongs to a body and a query, the
function for queries and the class of the result. -/
theorem mem_names_functionWords (hquery : c.shape.hasQuery = c.queryModel.isSome) :
    name ∈ names (functionWords mode c) ↔
      name ∈ modeNames mode ∨ name = baseUrlName ∨
        (c.body.isSome = true ∧ name = "req_data") ∨ (c.sendsModel = true ∧ name = "json") ∨
        (c.queryModel.isSome = true ∧ (name = "params" ∨ name = "_query_params")) ∨
        c.response.bind TypeRef.model? = some name := by
  rw [names_functionWords, names_signatureWords, names_queryWords, names_bodyWords, mem_modeNames,
    hquery]
  cases c.body.isSome <;> cases c.sendsModel <;> cases c.queryModel.isSome <;>
    simp only [List.mem_append, List.mem_cons, List.not_mem_nil, mem_names_resultWords, if_true] <;>
    grind

theorem mem_clientNames_of_mem_modeNames (h : name ∈ modeNames mode) :
    name ∈ Lexical.clientNames := by
  have hall : ∀ n ∈ modeNames mode, n ∈ Lexical.clientNames := by cases mode <;> decide
  exact hall name h

/-- The only names of a function that an argument can have. -/
theorem HasArguments.mem_names_iff (hc : HasArguments c)
    (hquery : c.shape.hasQuery = c.queryModel.isSome) {p : PathParameter}
    (hp : p ∈ c.pathParameters) :
    p.name ∈ names (functionWords mode c) ↔
      (c.queryModel.isSome = true ∧ p.name = "_query_params") ∨
        c.response.bind TypeRef.model? = some p.name := by
  have hfree : p.name ∉ Lexical.clientNames := by
    rw [hc.name_eq p hp]
    exact Lexical.sanitizeParameter_not_mem_clientNames _
  have hreserved : ∀ name ∈ Lexical.clientNames, p.name ≠ name :=
    fun name hname heq => hfree (heq ▸ hname)
  have hbase : p.name ≠ baseUrlName := by
    intro heq
    exact hc.baseUrlName_not_mem (List.mem_map.2 ⟨p, hp, congrArg String.toList heq⟩)
  rw [mem_names_functionWords hquery, or_iff_right (mt mem_clientNames_of_mem_modeNames hfree),
    or_iff_right hbase]
  simp [hreserved "req_data" (by decide), hreserved "json" (by decide),
    hreserved "params" (by decide)]

end Names

/-! ## Plans -/

/-- No argument for the path has the name of another parameter, of a variable or of anything else
that the function uses. -/
def CapturesNothing (mode : Mode) (c : Call) : Prop :=
  ∀ p ∈ c.pathParameters, p.name ∉ Word.names (functionWords mode c)

/-- The functions of a built plan are written word by word, and an argument for the path captures no
name in them but that of the function for queries and that of the class of the result. -/
theorem capturesNothing_iff (d : Document) (s : Settings) (p : TypedClient.Plan)
    (h : build d s = .ok p) : ∀ c ∈ p.calls, ∀ mode : Mode,
      (∀ (depth : Nat) (scope : Scope), scope.template = mode.clientTemplate →
        renderNodes (builtinLibrary.invokeAt (depth + 1))
          (scope.inLoop "op" (ClientFunction.ofCall mode c).toJson) (functionPart mode) =
          .ok (Word.joined (functionWords mode c)).toList) ∧
      (CapturesNothing mode c ↔ ∀ a ∈ c.pathParameters,
        (c.queryModel.isSome = true → a.name ≠ "_query_params") ∧
          c.response.bind TypeRef.model? ≠ some a.name) := by
  intro c hc mode
  have harguments := hasArguments_of_build h hc
  have hquery := hasQuery_of_build h hc
  obtain ⟨o, -, hsummary, -⟩ := exists_summary_of_build h hc
  refine ⟨fun depth scope hscope =>
    renderNodes_functionPart hscope depth (functionDocstring_ne_empty hsummary), ?_⟩
  refine forall₂_congr fun a ha => ?_
  rw [harguments.mem_names_iff hquery ha, not_or, not_and]

/-- The orders of a shop, under a path with two names that a function uses for itself. -/
def shopByName : Document :=
  { shop with operations := shop.operations.map fun o => { o with path := "/{url}/orders/{json}" } }

theorem capturesNothing_iff_shopByName : ∃ p, build shopByName {} = .ok p ∧
    (p.calls.map fun c => c.pathParameters.map PathParameter.name) = [["url_param", "json_param"]] ∧
    (p.calls.map fun c => (c.queryModel, c.response.bind TypeRef.model?)) =
      [(some "DefaultGetListOrdersQuery", some "OrderResponse")] ∧
    ∀ c ∈ p.calls, ∀ mode, CapturesNothing mode c := by
  have hbuilds : builds shopByName {} (fun p =>
      (p.calls.map fun c => c.pathParameters.map PathParameter.name) ==
        [["url_param", "json_param"]] &&
      (p.calls.map fun c => (c.queryModel, c.response.bind TypeRef.model?)) ==
        [(some "DefaultGetListOrdersQuery", some "OrderResponse")] &&
      p.calls.all fun c => c.pathParameters.all fun a => a.name != "_query_params" &&
        c.response.bind TypeRef.model? != some a.name) = true := by
    decide +kernel
  obtain ⟨p, hp, htest⟩ := exists_of_builds hbuilds
  simp only [Bool.and_eq_true, List.all_eq_true, bne_iff_ne, beq_iff_eq] at htest
  obtain ⟨⟨hnames, htypes⟩, hfree⟩ := htest
  refine ⟨p, hp, hnames, htypes, fun c hc mode => ?_⟩
  refine ((capturesNothing_iff shopByName {} p hp c hc mode).2).2 fun a ha => ?_
  obtain ⟨hquery, hclass⟩ := hfree c hc a ha
  exact ⟨fun _ => hquery, hclass⟩

/-- A path with an argument that is called like the function for queries, and a query. -/
def queryParamsInPath : Json := .object [
  ("openapi", .string "3.0.0"),
  ("paths", .object [("/a/{QueryParams}", .object [
    ("get", .object [
      ("operationId", .string "x"),
      ("parameters", .array [.object [("name", .string "q"), ("in", .string "query")]]),
      ("responses", .object [])])])]),
  ("components", .object [("schemas", .object [])])]

/-- The function calls its argument as the function for queries. -/
theorem not_capturesNothing_queryParamsInPath :
    ∃ d p, Document.ofJson queryParamsInPath = .ok d ∧ build d {} = .ok p ∧
      p.calls.map Call.urlTemplate = ["/a/{_query_params}"] ∧
      (p.calls.map fun c => c.pathParameters.map PathParameter.name) = [["_query_params"]] ∧
      ∃ c ∈ p.calls, ∀ mode, ¬CapturesNothing mode c := by
  have hgenerates : generates queryParamsInPath {} (fun p =>
      p.calls.map Call.urlTemplate == ["/a/{_query_params}"] &&
      (p.calls.map fun c => c.pathParameters.map PathParameter.name) == [["_query_params"]] &&
      p.calls.all fun c => [Mode.blocking, Mode.awaiting].all fun mode => c.pathParameters.any
        fun a => (Word.names (functionWords mode c)).contains a.name) = true := by
    decide +kernel
  obtain ⟨d, p, hd, hp, htest⟩ := exists_of_generates hgenerates
  simp only [Bool.and_eq_true, beq_iff_eq] at htest
  obtain ⟨⟨htemplates, hnames⟩, hcaptured⟩ := htest
  refine ⟨d, p, hd, hp, htemplates, hnames, ?_⟩
  obtain ⟨c, hc, -⟩ := List.mem_map.1 (hnames ▸ List.mem_singleton_self _)
  refine ⟨c, hc, fun mode hfree => ?_⟩
  have hmode : mode ∈ [Mode.blocking, Mode.awaiting] := by cases mode <;> simp
  have hany := List.all_eq_true.1 (List.all_eq_true.1 hcaptured c hc) mode hmode
  obtain ⟨a, ha, hcontains⟩ := List.any_eq_true.1 hany
  exact hfree a ha (List.contains_iff_mem.1 hcontains)

end TypedClient.Render
