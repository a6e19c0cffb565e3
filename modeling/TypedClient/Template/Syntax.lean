import TypedClient.Json.Basic

/-!
# Templates

A template is text with slots for values, with parts that depend on values or are repeated for
them, and with calls of macros.  A macro is a named part of a template with parameters; a template
may import the macros of others under a name of its own.
-/

namespace TypedClient.Template

/-- An expression. -/
inductive Expr where
  /-- A place in the variables, from the outside in. -/
  | path (segments : List String)
  | literal (value : Json)
  /-- The text that a macro gives. -/
  | call (space name : String) (arguments : List (String × Expr))
  | filtered (value : Expr) (filter : String)
  /-- The opposite truth value. -/
  | negated (value : Expr)
  deriving Inhabited

/-- A part of a template. -/
inductive Node where
  | text (text : String)
  /-- A slot. -/
  | print (value : Expr)
  | choice (condition : Expr) (body otherwise : List Node)
  /-- A part for each item; `otherwise` stands for no items. -/
  | each (name : String) (items : Expr) (body otherwise : List Node)
  deriving Inhabited

/-- A parameter of a macro, with its default. -/
structure Parameter where
  name : String
  default : Option Json := none

/-- A macro. -/
structure Definition where
  name : String
  parameters : List Parameter
  body : List Node

/-- An import: the template with the macros, and the name under which they are called. -/
structure Import where
  template : String
  space : String

/-- A part of a template that stands outside all others. -/
inductive Item where
  | node (node : Node)
  | define (definition : Definition)
  | load (source : Import)

end TypedClient.Template

namespace TypedClient

/-- A template. -/
structure Template where
  items : List Template.Item

namespace Template

/-- The parts that are rendered. -/
def nodes (t : Template) : List Node :=
  t.items.filterMap fun
    | .node n => some n
    | _ => none

/-- The macros that are defined. -/
def definitions (t : Template) : List Definition :=
  t.items.filterMap fun
    | .define d => some d
    | _ => none

/-- The macros that are imported. -/
def imports (t : Template) : List Import :=
  t.items.filterMap fun
    | .load i => some i
    | _ => none

end Template

end TypedClient
