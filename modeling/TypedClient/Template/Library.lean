import TypedClient.Template.Evaluation
import TypedClient.Template.Reading

/-!
# Sets of templates

Templates of a set find each other by name.  A set can be rendered once all its templates have been
read and every template whose macros are imported is there.
-/

namespace TypedClient.Template

/-- Template texts by name, in the order in which they came. -/
abbrev TemplateSet := List (String × String)

/-- Replaces the template of a name, or adds it. -/
def TemplateSet.insert (set : TemplateSet) (name text : String) : TemplateSet :=
  match set with
  | [] => [(name, text)]
  | (n, t) :: rest =>
    if n == name then (n, text) :: rest else (n, t) :: TemplateSet.insert rest name text

theorem TemplateSet.insert_nil (name text : String) :
    TemplateSet.insert [] name text = [(name, text)] := rfl

/-- The text of a name is what was put there last. -/
theorem TemplateSet.lookup_insert (set : TemplateSet) (name text : String) :
    (TemplateSet.insert set name text).lookup name = some text := by
  induction set with
  | nil => simp [TemplateSet.insert]
  | cons p rest ih =>
    obtain ⟨n, t⟩ := p
    by_cases h : n = name
    · subst h
      simp [TemplateSet.insert]
    · have h' : (name == n) = false := by simpa using Ne.symm h
      simp [TemplateSet.insert, h, List.lookup_cons, h', ih]

/-- Templates by name. -/
structure Library where
  templates : List (String × Template)

namespace Library

/-- The template of a name. -/
def template? (l : Library) (name : String) : Option Template := l.templates.lookup name

/-- Reads a template under its name. -/
def readNamed (entry : String × String) : Option (String × Template) :=
  (ofText? entry.2).map (entry.1, ·)

/-- Reads every template. -/
def readAll (set : TemplateSet) : Option Library :=
  (List.mapM readNamed set).map Library.mk

/-- The first import whose template is not there. -/
def missingImport? (l : Library) : Option (String × String) :=
  (l.templates.flatMap fun (name, t) => t.imports.map fun i => (name, i.template)).find?
    fun (_, imported) => (l.template? imported).isNone

/-- The library of a set. -/
def ofSet (set : TemplateSet) : Except RenderProblem Library :=
  match readAll set with
  | none => .error .malformed
  | some l =>
    match l.missingImport? with
    | some (template, imported) => .error (.missingImport template imported)
    | none => .ok l

/-! ## Macros -/

/-- The macros that can be called in a template: by the name of the space, the template in which
they are defined.  A template has its own macros under `self`, those that it imports, and the spaces
of the templates that it imports where it has none of the same name.  `depth` bounds how far imports
are followed. -/
def spaces (l : Library) : (depth : Nat) → (name : String) → List (String × String)
  | 0, _ => []
  | depth + 1, name =>
    match l.template? name with
    | none => []
    | some t =>
      let own := if t.definitions.isEmpty then [] else [("self", name)]
      t.imports.foldl (fun found i =>
        let direct := (i.space, i.template) :: found.filter fun p => p.1 != i.space
        direct ++ (l.spaces depth i.template).filter fun p => !direct.any fun q => q.1 == p.1) own

/-- Finds a macro that is called in a template, with the template in which it is defined. -/
def definition (l : Library) (s : Scope) (space name : String) :
    Rendered (String × Definition) :=
  match (l.spaces (l.templates.length + 1) s.template).lookup space with
  | none =>
    s.fail ("Macro namespace `" ++ space ++ "` was not found in template `" ++ s.template ++
      "`. Have you maybe forgotten to import it, or misspelled it?")
  | some file =>
    match ((l.template? file).map Template.definitions).getD [] |>.findRev?
        fun d => d.name == name with
    | some d => .ok (file, d)
    | none =>
      s.fail ("Macro `" ++ space ++ "::" ++ name ++ "` not found in template `" ++ s.template ++
        "`")

/-- What the parameters of a macro stand for in a call. -/
def bind (s : Scope) (d : Definition) (arguments : List (String × Json)) :
    Rendered (List (String × Json)) :=
  d.parameters.mapM fun p =>
    match (arguments.lookup p.name).or p.default with
    | some v => .ok (p.name, v)
    | none =>
      s.fail ("Macro `" ++ d.name ++ "` is missing the argument `" ++ p.name ++ "`")

/-- How many macros may call each other. -/
def maxCalls : Nat := 200

/-- Calls a macro from which at most `depth` further calls lead on. -/
def invokeAt (l : Library) : (depth : Nat) → Invoke
  | 0, s, call => s.fail ("Macro `" ++ call.name ++ "` calls itself without end")
  | depth + 1, s, call =>
    match l.definition s call.space call.name with
    | .error e => .error e
    | .ok (file, d) =>
      match bind s d call.arguments with
      | .error e => .error e
      | .ok arguments =>
        renderNodes (l.invokeAt depth) {
          frames := [arguments]
          values := s.values
          template := file
          place := ": error while rendering macro `" ++ call.space ++ "::" ++ call.name ++ "`" }
          d.body

/-- Renders a template. -/
def render (l : Library) (name : String) (values : List (String × Json)) :
    Except RenderProblem (List Char) :=
  match l.template? name with
  | none => .error (.notInSet name)
  | some t =>
    match renderNodes (l.invokeAt maxCalls) ⟨[], values, name, ""⟩ t.nodes with
    | .ok cs => .ok cs
    | .error f => .error (.stopped name f.place f.detail)

end Library

end TypedClient.Template
