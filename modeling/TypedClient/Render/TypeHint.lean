import TypedClient.Plan.Imports
import TypedClient.Lexical.Literal

/-!
# Annotations

The annotations of fields, arguments and results.  A forward reference stands between quotes, so
that it is not looked up before its class is there.
-/

namespace TypedClient.Render

open Plan

/-- Texts one after another with a comma between them. -/
def commaSeparated (parts : List String) : String := ", ".intercalate parts

/-- A keyword argument, if it has a value. -/
def keywordArgument (keyword : String) (value : Option String) : List String :=
  match value with
  | some text => [keyword ++ "=" ++ text]
  | none => []

/-- The arguments that bound the length of a text. -/
def lengthArguments (range : LengthRange) : String :=
  commaSeparated (keywordArgument "min_length" (range.min.map toString) ++
    keywordArgument "max_length" (range.max.map toString))

/-- The argument for one end of a range. -/
def boundArgument (bound : Option Bound) : List String :=
  match bound with
  | some b => keywordArgument b.comparator.name (some b.value.text)
  | none => []

/-- The arguments that bound a number. -/
def numberArguments (range : NumberRange) : String :=
  commaSeparated (boundArgument range.lower ++ boundArgument range.upper ++
    keywordArgument "multiple_of" (range.multipleOf.map JsonNumber.text))

/-- The annotation of a kind. -/
def kindHint : Kind → String
  | .primitive p => p.hint
  | .boundedText range => "constr(" ++ lengthArguments range ++ ")"
  | .boundedInteger range => "conint(" ++ numberArguments range ++ ")"
  | .boundedNumber range => "confloat(" ++ numberArguments range ++ ")"
  | .list items => if items.isUnknown then "list" else "List[" ++ kindHint items ++ "]"
  | .model name forward => if forward then "'" ++ name ++ "'" else name
  | .enumeration name => name
  | .unknown => "Any"

/-- The annotation of a body. -/
def typeHint : TypeRef → String
  | .model name => name
  | .modelList name => "List[" ++ name ++ "]"
  | .primitive p => p.hint
  | .primitiveList p => "List[" ++ p.hint ++ "]"
  | .map values => "Dict[str, " ++ values.hint ++ "]"
  | .any => "Any"

/-- An annotation that allows `None`. -/
def optional (hint : String) : String := "Optional[" ++ hint ++ "]"

end TypedClient.Render
