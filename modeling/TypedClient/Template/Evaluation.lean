import TypedClient.Error
import TypedClient.Json.Pointer
import TypedClient.Json.Printer
import TypedClient.Template.Syntax
import TypedClient.Text.CaseMap

/-!
# Evaluation of templates

Nodes are rendered in a scope, which says what names stand for.  The text of a macro depends on the
macros of all templates; here it is a function `invoke`, so that rendering is a recursion on the
nodes alone.
-/

namespace TypedClient.Template

/-- Why rendering stops, and at which place inside the template. -/
structure Failure where
  place : String
  detail : String

/-- The result of rendering. -/
abbrev Rendered := Except Failure

/-! ## Values -/

mutual

/-- A value as it is printed. -/
def printed : Json → List Char
  | .null => []
  | .bool true => "true".toList
  | .bool false => "false".toList
  | .number (.int n) => (toString n).toList
  | .number (.double x) => x.plainText
  | .string s => s.toList
  | .array [] => "[]".toList
  | .array (x :: xs) => '[' :: (printed x ++ printedItems xs)
  | .object _ => "[object]".toList

/-- The items behind the first one, and the closing bracket. -/
def printedItems : List Json → List Char
  | [] => [']']
  | x :: xs => ',' :: ' ' :: (printed x ++ printedItems xs)

end

/-- Whether a value counts as true. -/
def isTrue : Json → Bool
  | .null => false
  | .bool b => b
  | .number (.int n) => n != 0
  | .number (.double x) => !x.isZero
  | .string s => !s.isEmpty
  | .array xs => !xs.isEmpty
  | .object ms => !ms.isEmpty

/-- The items of a value: those of a list, or the characters of a text. -/
def itemsOf? : Json → Option (List Json)
  | .array xs => some xs
  | .string s => some (s.toList.map fun c => .string (String.singleton c))
  | _ => none

/-- The length of a value. -/
def lengthOf? : Json → Option Nat
  | .array xs => some xs.length
  | .object ms => some ms.length
  | .string s => some s.length
  | _ => none

/-- Applies a filter. -/
def applyFilter (filter : String) (v : Json) : Except String Json :=
  match filter with
  | "upper" =>
    match v with
    | .string s => .ok (.string (String.ofList (Text.uppercaseAll s.toList)))
    | v =>
      .error ("Filter call 'upper' failed: Filter `upper` was called on an incorrect value: " ++
        "got `" ++ v.text ++ "` but expected a String")
  | "length" =>
    match lengthOf? v with
    | some n => .ok (.number (.int n))
    | none =>
      .error ("Filter call 'length' failed: Filter `length` was used on a value that isn't an " ++
        "array, an object, or a string.")
  | filter => .error ("Filter '" ++ filter ++ "' not found")

/-! ## Scopes -/

/-- What names stand for. -/
structure Scope where
  /-- The names of loops and macros, from the inside out. -/
  frames : List (List (String × Json))
  /-- The variables of the run. -/
  values : List (String × Json)
  /-- The template that the nodes belong to. -/
  template : String
  /-- The place, as messages show it. -/
  place : String

namespace Scope

/-- What a path stands for in a frame. -/
def find? (names : List (String × Json)) (path : List String) : Option Json :=
  match path with
  | [] => none
  | first :: rest =>
    match Json.find? first names with
    | some v => v.steps? (rest.map String.toList)
    | none => none

/-- What a path stands for: the innermost frame that knows all of it decides. -/
def lookup (s : Scope) (path : List String) : Option Json :=
  (s.frames ++ [s.values]).findSome? fun names => find? names path

/-- Stops at the place of the scope. -/
def fail {α : Type} (s : Scope) (detail : String) : Rendered α := .error ⟨s.place, detail⟩

/-- The scope inside a loop. -/
def inLoop (s : Scope) (name : String) (item : Json) : Scope :=
  { s with frames := [(name, item)] :: s.frames, place := "" }

end Scope

/-! ## Expressions -/

/-- A call of a macro. -/
structure Invocation where
  space : String
  name : String
  arguments : List (String × Json)

/-- Gives the text of a macro that is called from a scope. -/
abbrev Invoke := Scope → Invocation → Rendered (List Char)

/-- The path that the value of an expression starts from. -/
def Expr.root? : Expr → Option (List String)
  | path segments => some segments
  | filtered value _ => value.root?
  | negated value => value.root?
  | _ => none

mutual

/-- The value of an expression.  What is not there counts as false behind a `not`. -/
def evaluate (invoke : Invoke) (s : Scope) : Expr → Rendered Json
  | .path segments =>
    match s.lookup segments with
    | some v => .ok v
    | none =>
      s.fail ("Variable `" ++ ".".intercalate segments ++
        "` not found in context while rendering '" ++ s.template ++ "'")
  | .literal v => .ok v
  | .call space name arguments =>
    match evaluateArguments invoke s arguments with
    | .error e => .error e
    | .ok values =>
      match invoke s ⟨space, name, values⟩ with
      | .error e => .error e
      | .ok cs => .ok (.string (String.ofList cs))
  | .filtered value filter =>
    match evaluate invoke s value with
    | .error e => .error e
    | .ok v =>
      match applyFilter filter v with
      | .ok w => .ok w
      | .error detail => s.fail detail
  | .negated value =>
    if ((value.root?.map fun p => (s.lookup p).isNone)).getD false then .ok (.bool true)
    else
      match evaluate invoke s value with
      | .error e => .error e
      | .ok v => .ok (.bool !isTrue v)

/-- The values of arguments. -/
def evaluateArguments (invoke : Invoke) (s : Scope) :
    List (String × Expr) → Rendered (List (String × Json))
  | [] => .ok []
  | (name, e) :: rest =>
    match evaluate invoke s e with
    | .error e => .error e
    | .ok v =>
      match evaluateArguments invoke s rest with
      | .error e => .error e
      | .ok values => .ok ((name, v) :: values)

end

/-- Whether a condition is met.  One that starts from a variable never fails. -/
def meets (invoke : Invoke) (s : Scope) (condition : Expr) : Rendered Bool :=
  match evaluate invoke s condition with
  | .ok v => .ok (isTrue v)
  | .error e => if condition.root?.isSome then .ok false else .error e

/-- How messages name a value that should have items. -/
def containerName (e : Expr) : String :=
  match e.root? with
  | some path => ".".intercalate path
  | none => "an array literal"

/-- The items of an expression. -/
def evaluateItems (invoke : Invoke) (s : Scope) (e : Expr) : Rendered (List Json) :=
  match evaluate invoke s e with
  | .error e => .error e
  | .ok v =>
    match itemsOf? v, v with
    | some items, _ => .ok items
    | none, .object _ =>
      s.fail ("Tried to iterate using key value on variable `" ++ containerName e ++
        "`, but it is missing a key")
    | none, _ =>
      s.fail ("Tried to iterate on a container (`" ++ containerName e ++
        "`) that has a unsupported type")

/-! ## Nodes -/

mutual

/-- The text of a node. -/
def renderNode (invoke : Invoke) (s : Scope) : Node → Rendered (List Char)
  | .text t => .ok t.toList
  | .print e => (evaluate invoke s e).map printed
  | .choice condition body otherwise =>
    match meets invoke s condition with
    | .error e => .error e
    | .ok true => renderNodes invoke s body
    | .ok false => renderNodes invoke s otherwise
  | .each name items body otherwise =>
    match evaluateItems invoke s items with
    | .error e => .error e
    | .ok [] => renderNodes invoke s otherwise
    | .ok values =>
      (values.mapM fun v => renderNodes invoke (s.inLoop name v) body).map List.flatten

/-- The text of nodes one after another. -/
def renderNodes (invoke : Invoke) (s : Scope) : List Node → Rendered (List Char)
  | [] => .ok []
  | n :: ns =>
    match renderNode invoke s n with
    | .error e => .error e
    | .ok cs =>
      match renderNodes invoke s ns with
      | .error e => .error e
      | .ok rest => .ok (cs ++ rest)

end

theorem renderNodes_nil (invoke : Invoke) (s : Scope) : renderNodes invoke s [] = .ok [] := by
  rw [renderNodes]

/-- A text stands for itself. -/
theorem renderNode_text (invoke : Invoke) (s : Scope) (t : String) :
    renderNode invoke s (.text t) = .ok t.toList := by
  rw [renderNode]

section

variable {invoke : Invoke} {s : Scope}

theorem renderNodes_cons {n : Node} {ns : List Node} {cs rest : List Char}
    (hn : renderNode invoke s n = .ok cs) (hns : renderNodes invoke s ns = .ok rest) :
    renderNodes invoke s (n :: ns) = .ok (cs ++ rest) := by
  rw [renderNodes, hn, hns]

/-- What a path stands for inside a loop over items with members. -/
theorem lookup_inLoop {name key : String} {item value : Json}
    (h : item.steps? [key.toList] = some value) :
    (s.inLoop name item).lookup [name, key] = some value := by
  simp [Scope.lookup, Scope.inLoop, Scope.find?, Json.find?, h]

theorem evaluate_path {path : List String} {v : Json} (h : s.lookup path = some v) :
    evaluate invoke s (.path path) = .ok v := by
  rw [evaluate, h]

theorem renderNode_print {path : List String} {text : String}
    (h : s.lookup path = some (.string text)) :
    renderNode invoke s (.print (.path path)) = .ok text.toList := by
  rw [renderNode, evaluate_path h]
  rfl

end

end TypedClient.Template
