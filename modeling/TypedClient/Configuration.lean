import TypedClient.Client.Request
import TypedClient.Loading.Source
import TypedClient.Toml.Document

/-!
# Configurations

A configuration is a partial choice of settings.  One comes from a file, another from the command
line, and laying the second over the first gives the settings of a run.
-/

namespace TypedClient

open Client (GenerateRequest Mode)
open Files (FileError FileTree)

/-- A partial choice of settings. -/
structure Configuration where
  input : Option String := none
  output : Option (List Char) := none
  mode : Option Mode := none
  baseUrl : Option Url := none
  schemaModule : Option String := none
  clientModule : Option String := none
  templateDirectory : Option (List Char) := none
  format : Option Bool := none
  included : List String := []
  excluded : List String := []

/-- What can be wrong with a configuration. -/
inductive ConfigurationError where
  | unreadable (error : FileError)
  /-- The text is no configuration. -/
  | malformed
  | noInput
  | noOutput

/-- The wording of an error. -/
def ConfigurationError.message : ConfigurationError → String
  | unreadable error => "I/O error: " ++ error.message
  | malformed => "TOML parsing error"
  | noInput => "Configuration error: no OpenAPI document given"
  | noOutput => "Configuration error: no output directory given"

namespace Configuration

/-! ## Layers -/

/-- The second list, unless it is empty. -/
def pick (base top : List String) : List String := if top.isEmpty then base else top

/-- Lays one configuration over another. -/
def merge (base top : Configuration) : Configuration where
  input := top.input.or base.input
  output := top.output.or base.output
  mode := top.mode.or base.mode
  baseUrl := top.baseUrl.or base.baseUrl
  schemaModule := top.schemaModule.or base.schemaModule
  clientModule := top.clientModule.or base.clientModule
  templateDirectory := top.templateDirectory.or base.templateDirectory
  format := top.format.or base.format
  included := pick base.included top.included
  excluded := pick base.excluded top.excluded

/-- The empty configuration changes nothing. -/
theorem merge_empty (c : Configuration) : c.merge {} = c := by simp [merge, pick]

/-- Laying a configuration over the empty one gives it back. -/
theorem empty_merge (c : Configuration) : merge {} c = c := by
  cases c with
  | mk _ _ _ _ _ _ _ _ included excluded =>
    cases included <;> cases excluded <;> simp [merge, pick]

/-- The request that a configuration makes.  Settings that are left open get their usual values. -/
def toRequest (c : Configuration) : Except ConfigurationError GenerateRequest :=
  match c.input, c.output with
  | none, _ => .error .noInput
  | some _, none => .error .noOutput
  | some source, some output =>
    let usual : Client.Settings := {}
    .ok {
      source := source
      output := output
      settings := {
        mode := c.mode.getD usual.mode
        baseUrl := c.baseUrl.map Url.text
        schemaModule := c.schemaModule.getD usual.schemaModule
        clientModule := c.clientModule.getD usual.clientModule
        filter := ⟨c.included, c.excluded⟩
        format := c.format.getD usual.format } }

/-! ## Files -/

/-- The text of a value. -/
def text? : Toml.Value → Option String
  | .string text => some text
  | _ => none

/-- The texts of an array. -/
def texts? : Toml.Value → Option (List String)
  | .array items => items.mapM text?
  | _ => none

/-- Whether a value is an empty collection. -/
def isUnit : Toml.Value → Bool
  | .array [] => true
  | .table _ [] => true
  | .tables [] => true
  | _ => false

/-- The mode that a value names, as a text or as the only key of a table with nothing in it. -/
def mode? : Toml.Value → Option Mode
  | .string word => Mode.ofName? word
  | .table _ [(word, value)] => if isUnit value then Mode.ofName? word else none
  | _ => none

/-- The address that a value gives. -/
def url? (v : Toml.Value) : Option Url := (text? v).bind fun text => (Url.parse text).toOption

/-- The truth value of a value. -/
def bool? : Toml.Value → Option Bool
  | .bool b => some b
  | _ => none

/-- Sets what an entry of a file chooses; `none` if the key is unknown or the value of another
kind. -/
def setEntry (c : Configuration) : String × Toml.Value → Option Configuration
  | (key, value) =>
    match key with
    | "input" => (text? value).map fun text => { c with input := some text }
    | "output" => (text? value).map fun text => { c with output := some text.toList }
    | "mode" => (mode? value).map fun mode => { c with mode := some mode }
    | "base-url" => (url? value).map fun url => { c with baseUrl := some url }
    | "schema-module" => (text? value).map fun text => { c with schemaModule := some text }
    | "client-module" => (text? value).map fun text => { c with clientModule := some text }
    | "template-dir" =>
      (text? value).map fun text => { c with templateDirectory := some text.toList }
    | "format" => (bool? value).map fun b => { c with format := some b }
    | "include-operations" => (texts? value).map fun ids => { c with included := ids }
    | "exclude-operations" => (texts? value).map fun ids => { c with excluded := ids }
    | _ => none

/-- The configuration of a text. -/
def ofText (text : String) : Except ConfigurationError Configuration :=
  match (Toml.document? text).bind fun entries => entries.foldlM setEntry {} with
  | some c => .ok c
  | none => .error .malformed

/-- The configuration with its relative paths taken from a directory.  Web addresses are no
paths. -/
def relativeTo (directory : List Char) (c : Configuration) : Configuration :=
  { c with
    input := c.input.map fun source =>
      if Loading.isWebAddress source then source
      else String.ofList (Files.join directory source.toList)
    output := c.output.map (Files.join directory)
    templateDirectory := c.templateDirectory.map (Files.join directory) }

/-- Loads the configuration of a file.  Its paths are relative to the file's directory. -/
def load (t : FileTree) (path : List Char) : Except ConfigurationError Configuration :=
  match t.read path with
  | .error e => .error (.unreadable e)
  | .ok text =>
    (ofText text).map fun c =>
      match Files.parent? path with
      | some (d :: ds) => c.relativeTo (d :: ds)
      | _ => c

end Configuration

end TypedClient
