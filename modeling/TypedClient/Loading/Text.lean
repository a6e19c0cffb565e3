import TypedClient.Error
import TypedClient.Json.Parser
import TypedClient.Yaml.Document

/-!
# Document texts

A document is written in JSON or YAML.  Which of the two it is follows from the media type or the
name of its source; where neither tells, JSON is tried first.
-/

namespace TypedClient.Loading

open Text (occursIn)

/-- The format of a document text. -/
inductive TextFormat where
  | json
  | yaml
  /-- Either of them. -/
  | unknown
  deriving DecidableEq

/-- The word for a format. -/
def TextFormat.name : TextFormat → String
  | json => "json"
  | yaml => "yaml"
  | unknown => "unknown"

/-- Whether the text ends in the given one. -/
def endsIn (ending text : String) : Bool := ending.toList.isSuffixOf text.toList

/-- The format of a text by the name of its source and its media type. -/
def TextFormat.detect (source : String) (mediaType : Option String) : TextFormat :=
  let media := (mediaType.getD "").toList
  if occursIn "json".toList media || endsIn ".json" source then json
  else if occursIn "yaml".toList media || endsIn ".yaml" source || endsIn ".yml" source then yaml
  else unknown

/-- Reads the value that a text is written for. -/
def TextFormat.decode (format : TextFormat) (text : String) : Except GenerationError Json :=
  match format with
  | json =>
    match Json.parse? text with
    | some v => .ok v
    | none => .error .notJson
  | yaml =>
    match Yaml.load? text with
    | some v => .ok v
    | none => .error (.loading .badYaml)
  | unknown =>
    match (Json.parse? text).or (Yaml.load? text) with
    | some v => .ok v
    | none => .error (.loading .badText)

end TypedClient.Loading
