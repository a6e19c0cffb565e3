import TypedClient.Json.Printer
import TypedClient.Template.Syntax

/-!
# Written form of templates

Slots stand between doubled braces, everything else that is not text between a brace and a percent
sign.  Inside, words are kept apart by single spaces.
-/

namespace TypedClient.Template

/-- A slot with the given words. -/
def slot (words : String) : String := "\x7b\x7b " ++ words ++ " \x7d\x7d"

/-- A tag with the given words. -/
def tag (words : String) : String := "\x7b% " ++ words ++ " %\x7d"

/-- A literal.  Texts stand between double quotes and hold none. -/
def literalText : Json → String
  | .string s => "\"" ++ s ++ "\""
  | v => v.text

mutual

/-- An expression. -/
def Expr.text : Expr → String
  | .path segments => ".".intercalate segments
  | .literal v => literalText v
  | .call space name arguments =>
    space ++ "::" ++ name ++ "(" ++ ", ".intercalate (argumentTexts arguments) ++ ")"
  | .filtered value filter => value.text ++ " | " ++ filter
  | .negated value => "not " ++ value.text

/-- The arguments of a call. -/
def argumentTexts : List (String × Expr) → List String
  | [] => []
  | (name, value) :: rest => (name ++ "=" ++ value.text) :: argumentTexts rest

end

mutual

/-- A part of a template. -/
def Node.written : Node → String
  | .text t => t
  | .print value => slot value.text
  | .choice condition body otherwise =>
    tag ("if " ++ condition.text) ++ writtenNodes body ++ writtenElse otherwise ++ tag "endif"
  | .each name items body otherwise =>
    tag ("for " ++ name ++ " in " ++ items.text) ++ writtenNodes body ++ writtenElse otherwise ++
      tag "endfor"

/-- The part that stands for a condition that is not met; nothing for an empty one. -/
def writtenElse : List Node → String
  | [] => ""
  | n :: ns => tag "else" ++ n.written ++ writtenNodes ns

/-- Parts one after another. -/
def writtenNodes : List Node → String
  | [] => ""
  | n :: ns => n.written ++ writtenNodes ns

end

theorem writtenNodes_cons (n : Node) (ns : List Node) :
    writtenNodes (n :: ns) = n.written ++ writtenNodes ns := by
  rw [writtenNodes]

/-- A parameter. -/
def Parameter.written (p : Parameter) : String :=
  match p.default with
  | some v => p.name ++ "=" ++ literalText v
  | none => p.name

/-- A part that stands outside all others.  The end of a macro repeats its name. -/
def Item.written : Item → String
  | node n => n.written
  | define d =>
    tag ("macro " ++ d.name ++ "(" ++ ", ".intercalate (d.parameters.map Parameter.written) ++
      ")") ++ writtenNodes d.body ++ tag ("endmacro " ++ d.name)
  | load i => tag ("import \"" ++ i.template ++ "\" as " ++ i.space)

/-- A template as text. -/
def written (t : Template) : String := "".intercalate (t.items.map Item.written)

end TypedClient.Template
