import TypedClient.Client.Mode
import TypedClient.Template.Library
import TypedClient.Template.Printer

/-!
# Built-in templates

The layout of the generated modules.  The templates are given by their parts; their texts, which a
user may replace, are the written forms of these.
-/

namespace TypedClient.Render

open Template

/-! ## Parts -/

/-- A variable. -/
def var (name : String) : Expr := .path [name]

/-- A member of a variable. -/
def member (name key : String) : Expr := .path [name, key]

/-- A slot for a variable. -/
def put (name : String) : Node := .print (var name)

/-- A slot for a member of a variable. -/
def putMember (name key : String) : Node := .print (member name key)

/-- A part that stands only under a condition. -/
def onlyIf (condition : Expr) (body : List Node) : Node := .choice condition body []

/-- A part that is repeated. -/
def forEach (name : String) (items : Expr) (body : List Node) : Node := .each name items body []

/-- A macro whose parameters have no defaults. -/
def macroOf (name : String) (parameters : List String) (body : List Node) : Item :=
  .define ⟨name, parameters.map fun p => ⟨p, none⟩, body⟩

/-- The template with the macros. -/
def macrosName : String := "macros.tera"

/-- A slot for what a macro gives. -/
def callMacro (name : String) (arguments : List (String × Expr)) : Node :=
  .print (.call "macros" name arguments)

/-- The import of the macros. -/
def loadMacros : Item := .load ⟨macrosName, "macros"⟩

/-! ## Macros -/

/-- The first line of a module. -/
def headerMacro : Item :=
  macroOf "header" ["generator"]
    [.text "# Generated by ", put "generator", .text ". Do not edit by hand."]

/-- The head of a function with its docstring. -/
def signatureMacro : Item :=
  macroOf "signature" ["op", "keyword"] [
    put "keyword", .text " ", putMember "op" "function_name", .text "(\n",
    forEach "parameter" (member "op" "parameters") [.text "    ", put "parameter", .text ",\n"],
    .text ") -> ", putMember "op" "return_annotation", .text ":\n",
    onlyIf (member "op" "docstring")
      [.text "    \"\"\"", putMember "op" "docstring", .text "\"\"\"\n"]]

/-- The arguments for query and body. -/
def argumentsMacro : Item :=
  macroOf "request_arguments" ["op", "indent"] [
    onlyIf (member "op" "params_argument")
      [put "indent", putMember "op" "params_argument", .text ",\n"],
    onlyIf (member "op" "json_argument")
      [put "indent", putMember "op" "json_argument", .text ",\n"]]

/-- The functions that turn a query model into query parameters. -/
def queryPart : List Node := [
  .text ("\n\ndef _query_params(params) -> dict:\n" ++
    "    \"\"\"JSON form of a query container with booleans spelled true/false\"\"\"\n" ++
    "    query = \x7b\x7d\n" ++
    "    for key, value in json.loads(params.json("),
  put "json_args",
  .text (")).items():\n" ++
    "        if isinstance(value, list):\n" ++
    "            query[key] = [_query_value(item) for item in value]\n" ++
    "        else:\n" ++
    "            query[key] = _query_value(value)\n" ++
    "    return query\n" ++
    "\n\ndef _query_value(value):\n" ++
    "    if isinstance(value, bool):\n" ++
    "        return \"true\" if value else \"false\"\n" ++
    "    return value\n")]

/-- The macro with these functions. -/
def queryMacro : Item := macroOf "query_helpers" ["json_args"] queryPart

/-- The macros of all modules. -/
def macrosTemplate : Template := ⟨[
  headerMacro, .node (.text "\n\n"), signatureMacro, .node (.text "\n\n"), argumentsMacro,
  .node (.text "\n\n"), queryMacro, .node (.text "\n")]⟩

/-! ## Models module -/

/-- The class of an enumeration. -/
def enumPart : Node :=
  forEach "enum" (var "enums") [
    .text "\n\nclass ", putMember "enum" "name", .text "(", putMember "enum" "bases", .text "):\n",
    forEach "member" (member "enum" "members")
      [.text "    ", putMember "member" "identifier", .text " = ", putMember "member" "literal",
        .text "\n"]]

/-- The function of a check. -/
def checkPart : List Node := [
  .text "\n    @validator(\"", putMember "validator" "field",
  .text "\", always=True)\n    def ", putMember "validator" "function_name",
  .text "(cls, v):\n        if v is None:\n            raise ValueError(\"",
  putMember "validator" "message", .text "\")\n        return v\n"]

/-- The class of a model. -/
def modelPart : Node :=
  forEach "model" (var "models") [
    .text "\n\nclass ", putMember "model" "name", .text "(BaseModel):\n",
    forEach "field" (member "model" "fields") [.text "    ", put "field", .text "\n"],
    onlyIf (.negated (member "model" "fields")) [.text "    pass\n"],
    onlyIf (member "model" "has_aliases")
      [.text "\n    class Config:\n        allow_population_by_field_name = True\n"],
    forEach "validator" (member "model" "validators") checkPart]

/-- The lines that resolve forward references. -/
def forwardPart : Node :=
  onlyIf (var "forward_models") [
    .text "\n\n",
    forEach "name" (var "forward_models") [put "name", .text ".update_forward_refs()\n"]]

/-- The models module. -/
def modelsTemplate : Template := ⟨[
  loadMacros,
  .node (callMacro "header" [("generator", var "generator")]),
  .node (.text "\n\n"),
  .node (forEach "line" (var "models_stdlib_imports") [put "line", .text "\n"]),
  .node (onlyIf (var "models_stdlib_imports") [.text "\n"]),
  .node (forEach "line" (var "models_third_party_imports") [put "line", .text "\n"]),
  .node enumPart,
  .node modelPart,
  .node forwardPart,
  .node (.text "\n")]⟩

/-! ## Client modules -/

/-- What stands in front of the functions. -/
def clientHead : List Item := [
  loadMacros,
  .node (callMacro "header" [("generator", var "generator")]),
  .node (.text "\n\n"),
  .node (forEach "line" (var "client_stdlib_imports") [put "line", .text "\n"]),
  .node (.text "\nimport "),
  .node (put "http_library"),
  .node (.text "\n"),
  .node (onlyIf (var "client_models") [
    .text "\nfrom .", put "schema_module", .text " import (\n",
    forEach "name" (var "client_models") [.text "    ", put "name", .text ",\n"],
    .text ")\n"]),
  .node (.text "\n\nBASE_URL = "),
  .node (put "base_url"),
  .node (.text "\n"),
  .node (onlyIf (var "has_query")
    [callMacro "query_helpers" [("json_args", var "json_args")]])]

/-- The method of a call: a function of its own, or the first argument of the general one, which
stands on a line of its own behind the given indentation. -/
def methodPart (indent : String) : Node :=
  .choice (member "op" "has_shortcut")
    [putMember "op" "method", .text "("]
    [.text ("request(\n" ++ indent ++ "\""), .print (.filtered (member "op" "method") "upper"),
      .text "\","]

/-- The head of a function. -/
def signaturePart (keyword : String) : Node :=
  callMacro "signature" [("op", var "op"), ("keyword", .literal (.string keyword))]

/-- The arguments for query and body. -/
def argumentsPart (indent : String) : Node :=
  callMacro "request_arguments" [("op", var "op"), ("indent", .literal (.string indent))]

/-- A blocking function. -/
def blockingPart : List Node := [
  .text "\n\n", signaturePart "def", .text "    url = ", putMember "op" "url_expression",
  .text ("\n    headers_ = headers if headers is not None else \x7b\x7d\n" ++
    "    proxies_ = proxies if proxies is not None else \x7b\x7d\n" ++
    "\n    response_obj = requests."),
  methodPart "        ",
  .text "\n        url,\n",
  argumentsPart "        ",
  .text ("        headers=headers_,\n" ++
    "        proxies=proxies_,\n" ++
    "        **kwargs,\n" ++
    "    )\n\n"),
  .choice (member "op" "return_expression")
    [.text "    if response_obj.ok:\n        return ", putMember "op" "return_expression",
      .text "\n    return None\n"]
    [.text "    response_obj.raise_for_status()\n"]]

/-- A coroutine. -/
def awaitingPart : List Node := [
  .text "\n\n", signaturePart "async def", .text "    url = ", putMember "op" "url_expression",
  .text ("\n    headers_ = headers if headers is not None else \x7b\x7d\n" ++
    "\n    async with aiohttp.ClientSession(headers=headers_) as session:\n" ++
    "        async with session."),
  methodPart "            ",
  .text "\n            url,\n",
  argumentsPart "            ",
  .text ("            proxy=proxy,\n" ++
    "            **kwargs,\n" ++
    "        ) as response_obj:\n"),
  .choice (member "op" "return_expression")
    [.text "            if response_obj.ok:\n                return ",
      putMember "op" "return_expression", .text "\n            return None\n"]
    [.text "            response_obj.raise_for_status()\n"]]

/-- A client module with the given functions. -/
def clientTemplate (functionPart : List Node) : Template :=
  ⟨clientHead ++ [.node (forEach "op" (var "operations") functionPart), .node (.text "\n")]⟩

/-! ## The set -/

/-- The template of the models module. -/
def modelsName : String := "models.py.tera"

/-- The built-in templates. -/
def builtinTemplates : List (String × Template) := [
  (macrosName, macrosTemplate),
  (modelsName, modelsTemplate),
  (Client.Mode.blocking.clientTemplate, clientTemplate blockingPart),
  (Client.Mode.awaiting.clientTemplate, clientTemplate awaitingPart)]

/-- The texts of the built-in templates. -/
def builtinSet : TemplateSet := builtinTemplates.map fun (name, t) => (name, t.written)

/-- The text of a built-in template. -/
def builtinText (name : String) : Except RenderProblem String :=
  match builtinSet.lookup name with
  | some text => .ok text
  | none => .error (.missing name)

end TypedClient.Render
