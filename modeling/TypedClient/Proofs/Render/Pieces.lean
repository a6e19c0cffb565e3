import Mathlib.Tactic.Common
import TypedClient.Lexical.Identifier
import TypedClient.Render.Classes
import TypedClient.Render.Functions
import TypedClient.Render.Templates
import TypedClient.Render.Variables

/-!
# Pieces of generated code

Annotations and expressions taken apart, so that one can tell what a word in them stands for: a
symbol that the module has to provide, a class of the models module, or a name or a literal of its
own. What is left over are marks, in which no word is a symbol. Side by side the pieces are what is
rendered, as far as annotations, declarations and expressions go (`text_declarationCode`,
`text_parameterCodes`, …) and for the parts of the built-in templates that use symbols of their own
(`renderNodes_checkPart`, `renderNodes_queryPart`).
-/

namespace TypedClient.Render

open Client (Mode)
open Plan

/-! ## Symbols and pieces -/

/-- What a generated module takes from other modules, and the function for queries, which it only
has where it is needed. -/
inductive Symbol where
  | date
  | datetime
  | enum
  | optional
  | list
  | dict
  | any
  | field
  | validator
  | constr
  | conint
  | confloat
  | json
  | queryParams
  deriving DecidableEq

namespace Symbol

/-- The word for a symbol in generated code. -/
def text : Symbol → String
  | date => "date"
  | datetime => "datetime"
  | enum => "Enum"
  | optional => "Optional"
  | list => "List"
  | dict => "Dict"
  | any => "Any"
  | field => "Field"
  | validator => "validator"
  | constr => "constr"
  | conint => "conint"
  | confloat => "confloat"
  | json => "json"
  | queryParams => "_query_params"

/-- The words for all symbols, letter by letter. -/
def words : List (List Char) := [
  ['d', 'a', 't', 'e'],
  ['d', 'a', 't', 'e', 't', 'i', 'm', 'e'],
  ['E', 'n', 'u', 'm'],
  ['O', 'p', 't', 'i', 'o', 'n', 'a', 'l'],
  ['L', 'i', 's', 't'],
  ['D', 'i', 'c', 't'],
  ['A', 'n', 'y'],
  ['F', 'i', 'e', 'l', 'd'],
  ['v', 'a', 'l', 'i', 'd', 'a', 't', 'o', 'r'],
  ['c', 'o', 'n', 's', 't', 'r'],
  ['c', 'o', 'n', 'i', 'n', 't'],
  ['c', 'o', 'n', 'f', 'l', 'o', 'a', 't'],
  ['j', 's', 'o', 'n'],
  ['_', 'q', 'u', 'e', 'r', 'y', '_', 'p', 'a', 'r', 'a', 'm', 's']]

end Symbol

/-- Whether no word of the text is a symbol. -/
def isPlain (text : String) : Bool :=
  (Text.splitAt (fun c => !Lexical.isIdentifierChar c) text.toList).all fun word =>
    !Symbol.words.contains word

/-- A piece of generated code. -/
inductive Piece where
  | symbol (s : Symbol)
  /-- A class of the models module. -/
  | className (name : String)
  /-- An identifier that is not looked up in the module: a field, an argument or an attribute. -/
  | identifier (text : String)
  /-- Numbers and what stands between quotes. -/
  | literal (text : String)
  /-- Punctuation, keywords and builtins. -/
  | mark (text : String) (plain : isPlain text = true := by decide)

/-- The piece as it is written. -/
def Piece.text : Piece → String
  | symbol s => s.text
  | className name => name
  | identifier text => text
  | literal text => text
  | mark text _ => text

/-- Generated code, piece by piece. -/
abbrev Code := List Piece

namespace Code

/-- The code as it is written. -/
def text : Code → String
  | [] => ""
  | p :: code => p.text ++ text code

@[simp]
theorem text_nil : text [] = "" := rfl

@[simp]
theorem text_cons (p : Piece) (code : Code) : text (p :: code) = p.text ++ text code := rfl

@[simp]
theorem text_append (a b : Code) : text (a ++ b) = text a ++ text b := by
  induction a with
  | nil => simp
  | cons p a ih => simp [ih, String.append_assoc]

end Code

/-! ## Annotations -/

def primitiveCode : Primitive → Code
  | .str => [.mark "str"]
  | .int => [.mark "int"]
  | .float => [.mark "float"]
  | .bool => [.mark "bool"]
  | .date => [.symbol .date]
  | .dateTime => [.symbol .datetime]
  | .bytes => [.mark "bytes"]
  | .dict => [.mark "dict"]

def kindCode : Kind → Code
  | .primitive p => primitiveCode p
  | .boundedText range => [.symbol .constr, .mark "(", .literal (lengthArguments range), .mark ")"]
  | .boundedInteger range =>
    [.symbol .conint, .mark "(", .literal (numberArguments range), .mark ")"]
  | .boundedNumber range =>
    [.symbol .confloat, .mark "(", .literal (numberArguments range), .mark ")"]
  | .list items =>
    if items.isUnknown then [.mark "list"]
    else [.symbol .list, .mark "["] ++ kindCode items ++ [.mark "]"]
  | .model name forward =>
    if forward then [.literal ("'" ++ name ++ "'")] else [.className name]
  | .enumeration name => [.className name]
  | .unknown => [.symbol .any]

def typeCode : TypeRef → Code
  | .model name => [.className name]
  | .modelList name => [.symbol .list, .mark "[", .className name, .mark "]"]
  | .primitive p => primitiveCode p
  | .primitiveList p => [.symbol .list, .mark "["] ++ primitiveCode p ++ [.mark "]"]
  | .map values => [.symbol .dict, .mark "[str, "] ++ primitiveCode values ++ [.mark "]"]
  | .any => [.symbol .any]

/-- An annotation that allows `None`. -/
def optionalCode (hint : Code) : Code := [.symbol .optional, .mark "["] ++ hint ++ [.mark "]"]

theorem text_primitiveCode (p : Primitive) : (primitiveCode p).text = p.hint := by
  cases p <;> simp [primitiveCode, Piece.text, Symbol.text, Primitive.hint, Primitive.name]

theorem text_kindCode (kind : Kind) : (kindCode kind).text = kindHint kind := by
  induction kind with
  | primitive p => exact text_primitiveCode p
  | list items ih =>
      unfold kindCode kindHint
      split
      · simp [Piece.text]
      · simp [ih, Piece.text, Symbol.text, ← String.append_assoc]
  | model name forward => cases forward <;> simp [kindCode, kindHint, Piece.text]
  | _ => simp [kindCode, kindHint, Piece.text, Symbol.text, ← String.append_assoc]

theorem text_typeCode (type : TypeRef) : (typeCode type).text = typeHint type := by
  cases type <;>
    simp [typeCode, typeHint, text_primitiveCode, Piece.text, Symbol.text, ← String.append_assoc]

theorem text_optionalCode (hint : Code) : (optionalCode hint).text = optional hint.text := by
  simp [optionalCode, optional, Piece.text, Symbol.text, ← String.append_assoc]

/-! ## Classes -/

/-- The base classes of an enumeration. -/
def basesCode (e : Enumeration) : Code :=
  if e.members.all fun m => m.value.isString then [.mark "str, ", .symbol .enum]
  else [.symbol .enum]

/-- The annotation of a field of a model. -/
def fieldCode (m : Model) (f : Field) : Code :=
  if isWrapped m f then optionalCode (kindCode f.kind) else kindCode f.kind

/-- The argument that names the field in messages. -/
def aliasCode (f : Field) : Code :=
  if f.needsAlias then [.mark ", alias=", .literal (Lexical.quote f.wireName)] else []

/-- The default of a field of a model. -/
def defaultCode (m : Model) (f : Field) : Code :=
  match f.optional, usesFieldCall m f with
  | true, true => [.mark " = ", .symbol .field, .mark "(None"] ++ aliasCode f ++ [.mark ")"]
  | true, false => [.mark " = None"]
  | false, true => [.mark " = ", .symbol .field, .mark "(..."] ++ aliasCode f ++ [.mark ")"]
  | false, false => []

/-- The declaration of a field inside its model. -/
def declarationCode (m : Model) (f : Field) : Code :=
  [.identifier f.name, .mark ": "] ++ fieldCode m f ++ defaultCode m f

/-- The function that checks a field. -/
def checkCode (v : ValidatorFunction) : Code := [
  .mark "\n    @", .symbol .validator, .mark "(\"", .literal v.field,
  .mark "\", always=True)\n    def ", .identifier v.name,
  .mark "(cls, v):\n        if v is None:\n            raise ValueError(\"", .literal v.message,
  .mark "\")\n        return v\n"]

theorem text_basesCode (e : Enumeration) :
    (basesCode e).text = (EnumClass.ofEnumeration e).bases := by
  unfold basesCode EnumClass.ofEnumeration enumBases
  split <;> simp [Piece.text, Symbol.text]

theorem text_fieldCode (m : Model) (f : Field) : (fieldCode m f).text = fieldHint m f := by
  unfold fieldCode fieldHint
  split
  · rw [text_optionalCode, text_kindCode]
  · exact text_kindCode f.kind

theorem text_aliasCode (f : Field) : (aliasCode f).text = aliasArgument f := by
  unfold aliasCode aliasArgument
  split <;> simp [Piece.text]

theorem text_defaultCode (m : Model) (f : Field) :
    (defaultCode m f).text = fieldDefault m f := by
  unfold defaultCode fieldDefault
  cases f.optional <;> cases usesFieldCall m f <;>
    simp [text_aliasCode, Piece.text, Symbol.text, ← String.append_assoc]

theorem text_declarationCode (m : Model) (f : Field) :
    (declarationCode m f).text = fieldDeclaration m f := by
  simp [declarationCode, fieldDeclaration, text_fieldCode, text_defaultCode, Piece.text,
    ← String.append_assoc]

/-! ## Functions -/

/-- The argument for the way of requests. -/
def proxyCode : Mode → Code
  | .blocking => [.identifier "proxies", .mark ": ", .symbol .optional, .mark "[dict] = None"]
  | .awaiting => [.identifier "proxy", .mark ": ", .symbol .optional, .mark "[str] = None"]

def parameterCodes (c : Call) (mode : Mode) : List Code :=
  (match c.body with
    | some type => [[.identifier "req_data", .mark ": "] ++ typeCode type, [.mark "/"]]
    | none => []) ++
  c.pathParameters.map (fun p => [.identifier p.name, .mark ": "] ++ primitiveCode p.type) ++
  [[.mark "*"]] ++
  (match c.queryModel with
    | some name => [[.identifier "params", .mark ": ", .className name]]
    | none => []) ++
  [[.identifier "headers", .mark ": ", .symbol .optional, .mark "[dict] = None"], proxyCode mode,
    [.mark "**kwargs"]]

def resultCode (c : Call) : Code :=
  match c.response with
  | some type => optionalCode (typeCode type)
  | none => [.mark "None"]

def queryCode (c : Call) : Option Code :=
  if c.shape.hasQuery then
    some [.identifier "params", .mark "=", .symbol .queryParams, .mark "(params)"]
  else none

def bodyCode : TypeRef → Code
  | .model _ => [
    .identifier "json", .mark "=", .symbol .json, .mark ".loads(req_data.", .identifier "json",
    .mark "(", .mark jsonArguments, .mark "))"]
  | .modelList _ => [
    .identifier "json", .mark "=[", .symbol .json, .mark ".loads(item.", .identifier "json",
    .mark "(", .mark jsonArguments, .mark ")) for item in req_data]"]
  | _ => [.identifier "json", .mark "=req_data"]

/-- The expression for what the service answered. -/
def payloadCode : Mode → Code
  | .blocking => [.mark "response_obj.", .identifier "json", .mark "()"]
  | .awaiting => [.mark "await response_obj.", .identifier "json", .mark "()"]

/-- The expression for the result of a function. -/
def returnCode (type : TypeRef) (mode : Mode) : Code :=
  match type with
  | .model name => [.className name, .mark ".parse_obj("] ++ payloadCode mode ++ [.mark ")"]
  | .modelList name =>
    [.mark "[", .className name, .mark ".parse_obj(item) for item in "] ++ payloadCode mode ++
      [.mark "]"]
  | _ => payloadCode mode

/-- The functions that turn a query model into query parameters. -/
def helperCode : Code := [
  .mark "\n\ndef ", .identifier "_query_params", .mark "(params) -> dict:\n",
  .literal "    \"\"\"JSON form of a query container with booleans spelled true/false\"\"\"\n",
  .mark "    query = \x7b\x7d\n",
  .mark "    for key, value in ", .symbol .json, .mark ".loads(params.", .identifier "json",
  .mark "(", .mark jsonArguments, .mark ")).items():\n",
  .mark "        if isinstance(value, list):\n",
  .mark "            query[key] = ", .mark "[_query_value(item) ", .mark "for item in value]\n",
  .mark "        else:\n",
  .mark "            query[key] = ", .mark "_query_value(value)\n",
  .mark "    return query\n",
  .mark "\n\ndef _query_value(value):\n",
  .mark "    if isinstance(value, bool):\n",
  .mark "        return ", .literal "\"true\"", .mark " if value else ", .literal "\"false\"",
  .mark "\n", .mark "    return value\n"]

theorem text_proxyCode (mode : Mode) : (proxyCode mode).text = proxyParameter mode := by
  cases mode <;> simp [proxyCode, proxyParameter, Piece.text, Symbol.text]

theorem text_parameterCodes (c : Call) (mode : Mode) :
    (parameterCodes c mode).map Code.text = parameters c mode := by
  have hpath : (c.pathParameters.map fun p =>
      [.identifier p.name, .mark ": "] ++ primitiveCode p.type).map Code.text =
      c.pathParameters.map fun p => p.name ++ ": " ++ p.type.hint := by
    simp [text_primitiveCode, Piece.text, String.append_assoc]
  unfold parameterCodes parameters
  rw [List.map_append, List.map_append, List.map_append, List.map_append, hpath]
  cases c.body <;> cases c.queryModel <;>
    simp [text_typeCode, text_proxyCode, Piece.text, Symbol.text, ← String.append_assoc]

theorem text_resultCode (c : Call) : (resultCode c).text = returnHint c := by
  unfold resultCode returnHint
  cases c.response with
  | some type => exact (text_optionalCode _).trans (congrArg optional (text_typeCode type))
  | none => simp [Piece.text]

theorem text_queryCode (c : Call) : (queryCode c).map Code.text = queryArgument c := by
  unfold queryCode queryArgument
  split <;> simp [Piece.text, Symbol.text]

theorem text_bodyCode (type : TypeRef) : (bodyCode type).text = bodyArgument type := by
  unfold bodyCode bodyArgument
  cases type <;> simp [Piece.text, Symbol.text, ← String.append_assoc]

theorem text_payloadCode (mode : Mode) : (payloadCode mode).text = payload mode := by
  cases mode <;> simp [payloadCode, payload, Piece.text]

theorem text_returnCode (type : TypeRef) (mode : Mode) :
    (returnCode type mode).text = returnExpression type mode := by
  cases type <;>
    simp [returnCode, returnExpression, text_payloadCode, Piece.text, ← String.append_assoc]

/-! ## Parts of templates -/

section Templates

open Template

variable {invoke : Invoke} {s : Scope}

/-- The built-in template has this function for every check. -/
theorem renderNodes_checkPart (v : ValidatorFunction) :
    renderNodes invoke (s.inLoop "validator" v.toJson) checkPart =
      .ok (checkCode v).text.toList := by
  have hfield : v.toJson.steps? ["field".toList] = some (.string v.field) := rfl
  have hname : v.toJson.steps? ["function_name".toList] = some (.string v.name) := rfl
  have hmessage : v.toJson.steps? ["message".toList] = some (.string v.message) := rfl
  have hfirst : "\n    @validator(\"" = "\n    @" ++ ("validator" ++ "(\"") := by decide +kernel
  -- the template has longer texts than the code, which parts them at symbols and identifiers
  unfold checkCode checkPart putMember member
  refine (renderNodes_cons (renderNode_text _ _ _) <|
    renderNodes_cons (renderNode_print (lookup_inLoop hfield)) <|
    renderNodes_cons (renderNode_text _ _ _) <|
    renderNodes_cons (renderNode_print (lookup_inLoop hname)) <|
    renderNodes_cons (renderNode_text _ _ _) <|
    renderNodes_cons (renderNode_print (lookup_inLoop hmessage)) <|
    renderNodes_cons (renderNode_text _ _ _) (renderNodes_nil _ _)).trans (congrArg Except.ok ?_)
  simp only [Code.text_cons, Code.text_nil, Piece.text, Symbol.text]
  rw [hfirst, String.append_empty]
  simp only [String.toList_append, List.append_assoc, List.append_nil]

/-- The built-in templates have these functions for queries. -/
theorem renderNodes_queryPart (h : s.lookup ["json_args"] = some (.string jsonArguments)) :
    renderNodes invoke s queryPart = .ok helperCode.text.toList := by
  have hhead : "\n\ndef _query_params(params) -> dict:\n" =
      "\n\ndef " ++ ("_query_params" ++ "(params) -> dict:\n") := by decide +kernel
  have hloop : "    for key, value in json.loads(params.json(" =
      "    for key, value in " ++ ("json" ++ (".loads(params." ++ ("json" ++ "("))) := by
    decide +kernel
  have hitems : "            query[key] = [_query_value(item) for item in value]\n" =
      "            query[key] = " ++ ("[_query_value(item) " ++ "for item in value]\n") := by
    decide +kernel
  have hitem : "            query[key] = _query_value(value)\n" =
      "            query[key] = " ++ "_query_value(value)\n" := by decide +kernel
  have hspelled : "        return \"true\" if value else \"false\"\n" =
      "        return " ++ ("\"true\"" ++ (" if value else " ++ ("\"false\"" ++ "\n"))) := by
    decide +kernel
  unfold helperCode queryPart put var
  refine (renderNodes_cons (renderNode_text _ _ _) <|
    renderNodes_cons (renderNode_print h) <|
    renderNodes_cons (renderNode_text _ _ _) (renderNodes_nil _ _)).trans (congrArg Except.ok ?_)
  simp only [Code.text_cons, Code.text_nil, Piece.text, Symbol.text]
  rw [hhead, hloop, hitems, hitem, hspelled, String.append_empty]
  simp only [String.toList_append, List.append_assoc, List.append_nil]

end Templates

end TypedClient.Render
