/-!
# HTTP methods

The methods that a path item may declare an operation for.
-/

namespace TypedClient.OpenApi

/-- An HTTP method. -/
inductive Method where
  | get
  | put
  | post
  | delete
  | options
  | head
  | patch
  | trace
  deriving DecidableEq

namespace Method

/-- All methods, in the order of the OpenAPI specification. -/
def all : List Method := [get, put, post, delete, options, head, patch, trace]

/-- The method in lower case, as path items spell it. -/
def name : Method → String
  | get => "get"
  | put => "put"
  | post => "post"
  | delete => "delete"
  | options => "options"
  | head => "head"
  | patch => "patch"
  | trace => "trace"

/-- The method in upper case, as requests spell it. -/
def token (m : Method) : String := String.ofList (m.name.toList.map Char.toUpper)

/-- Reads a method without regard to the case of its ASCII letters. -/
def ofWord? (word : String) : Option Method :=
  all.find? fun m => m.name.toList == word.toList.map Char.toLower

theorem mem_all (m : Method) : m ∈ all := by cases m <;> decide

theorem ofWord?_name (m : Method) : ofWord? m.name = some m := by cases m <;> decide

end Method

end TypedClient.OpenApi
