import TypedClient.OpenApi.Method
import TypedClient.Lexical.Identifier
import TypedClient.Text.Alphabetic
import TypedClient.Text.Blank
import TypedClient.Text.CaseMap
import TypedClient.Text.Uppercase

/-!
# Names of generated functions, classes and members

Identifiers of a document are turned into Python names by fixed rules, so that one document always
gives the same names.  `snakeCase` serves functions and arguments, `typeCase` classes; the other
names are put together from these and made valid by `Lexical.sanitize`.
-/

namespace TypedClient.Naming

open TypedClient.Text
open TypedClient.OpenApi (Method)

/-! ## Function names -/

/-- Turns the first upper-case character into an underscore and its lower-case form.  There is
no step when no character is upper-case. -/
def snakeStep? : List Char → Option (List Char)
  | [] => none
  | c :: cs =>
    if isUppercase c then some ('_' :: (lowercase c ++ cs))
    else (snakeStep? cs).map (c :: ·)

/-- Takes up to `steps` such steps, one after another. -/
def snakeSteps : (steps : Nat) → List Char → List Char
  | 0, cs => cs
  | steps + 1, cs =>
    match snakeStep? cs with
    | none => cs
    | some next => snakeSteps steps next

/-- Takes these steps until no upper-case character is left.  Each step removes one of them and
adds none, as long as lower-case forms hold no upper-case character, so their number bounds the
steps. -/
def snakeCase (cs : List Char) : List Char := snakeSteps (cs.countP isUppercase) cs

theorem snakeStep?_nil : snakeStep? [] = none := rfl

theorem snakeStep?_cons_upper {c : Char} (h : isUppercase c = true) (cs : List Char) :
    snakeStep? (c :: cs) = some ('_' :: (lowercase c ++ cs)) := by
  simp [snakeStep?, h]

theorem snakeStep?_cons_other {c : Char} (h : isUppercase c = false) (cs : List Char) :
    snakeStep? (c :: cs) = (snakeStep? cs).map (c :: ·) := by
  simp [snakeStep?, h]

/-- There is no step exactly when no upper-case character is left. -/
theorem snakeStep?_eq_none_iff (cs : List Char) :
    snakeStep? cs = none ↔ ∀ c ∈ cs, isUppercase c = false := by
  induction cs with
  | nil => simp [snakeStep?]
  | cons c cs ih => cases h : isUppercase c <;> simp [snakeStep?, h, ih]

/-- A mixed-case identifier in lower case with underscores. -/
def functionWords (raw : String) : String := String.ofList (snakeCase raw.toList)

/-- The name of an operation's function: tag, method and operation id in lower case. -/
def functionName (tag : String) (method : Method) (operationId : String) : String :=
  let words := tag ++ "_" ++ method.name ++ "_" ++ functionWords operationId
  Lexical.sanitize (String.ofList (lowercaseAll words.toList))

/-- The argument name of a path parameter. -/
def parameterName (wireName : String) : String :=
  Lexical.sanitizeParameter (functionWords wireName)

/-- Characters of a path that stand for an underscore in an operation id. -/
def isPathPunctuation (c : Char) : Bool :=
  c == '/' || c == '\x7b' || c == '\x7d' || c == '-' || c == '.'

/-- Drops each underscore that follows one. -/
def squeezeUnderscores : List Char → List Char
  | [] => []
  | c :: cs =>
    match squeezeUnderscores cs with
    | '_' :: rest => if c == '_' then '_' :: rest else c :: '_' :: rest
    | rest => c :: rest

/-- The operation id of an operation that declares none: its method and path. -/
def fallbackOperationId (method : Method) (path : String) : String :=
  let raw := method.name.toList ++ '_' :: path.toList
  let masked := raw.map fun c => if isPathPunctuation c then '_' else c
  let squeezed := squeezeUnderscores masked
  String.ofList (if squeezed.getLast? == some '_' then squeezed.dropLast else squeezed)

/-! ## Class names -/

/-- Capitalises the first letter of every run of letters and lowers the others. -/
def titleCase (afterLetter : Bool) : List Char → List Char
  | [] => []
  | c :: cs =>
    if isAlphabetic c then
      (if afterLetter then lowercase c else uppercase c) ++ titleCase true cs
    else c :: titleCase false cs

theorem titleCase_nil (afterLetter : Bool) : titleCase afterLetter [] = [] := rfl

/-- A segment that starts with an upper-case character stays as it is. -/
def typeSegment (segment : List Char) : List Char :=
  if (segment.head?.map isUppercase).getD false then segment else titleCase false segment

/-- The segments between underscores and spaces, each capitalised, side by side. -/
def typeCase (cs : List Char) : List Char :=
  ((splitAt (fun c => c == '_' || c == ' ') cs).filter fun s => !s.isEmpty).flatMap typeSegment

/-- An identifier as a class name, not yet made valid. -/
def typeWords (raw : String) : String := String.ofList (typeCase raw.toList)

/-- The class name of a component schema. -/
def modelName (component : String) : String := Lexical.sanitize (typeWords component)

/-- The class name of the container for a function's query parameters. -/
def queryModelName (function : String) : String := typeWords function ++ "Query"

/-- The class name of an enumeration that a field declares in place. -/
def enumName (owner field : String) : String := typeWords (owner ++ "_" ++ field) ++ "Enum"

/-- The name of a model field. -/
def fieldName (wireName : String) : String := Lexical.sanitizeField wireName

/-! ## Members and references -/

/-- The member name of a literal that is a text. -/
def textMemberName (text : String) : String :=
  Lexical.sanitize (String.ofList (uppercaseAll text.toList))

/-- The member name of any other literal, from the way it is written. -/
def literalMemberName (written : String) : String := textMemberName ("VALUE_" ++ written)

/-- What a reference to a component schema begins with. -/
def schemaPointer : String := "#/components/schemas/"

/-- The component that a reference names, if it names one. -/
def referencedComponent? (reference : String) : Option String :=
  match dropStart? schemaPointer.toList reference.toList with
  | some (c :: cs) => some (String.ofList (c :: cs))
  | _ => none

end TypedClient.Naming
