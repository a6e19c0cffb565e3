/-!
# Python identifiers

A valid identifier is a nonempty word of ASCII letters, digits and underscores that starts with no
digit and is no keyword.  `sanitize` maps every text onto a valid identifier; `sanitizeField` and
`sanitizeParameter` further avoid the names that a generated class or function needs for itself.
`unique` keeps the identifiers of one scope apart.
-/

namespace TypedClient.Lexical

/-- Words of the language that no name may equal. -/
def keywords : List String := [
  "False", "None", "True", "and", "as", "assert", "async", "await", "break", "class", "continue",
  "def", "del", "elif", "else", "except", "finally", "for", "from", "global", "if", "import", "in",
  "is", "lambda", "nonlocal", "not", "or", "pass", "raise", "return", "try", "while", "with",
  "yield"]

/-- Attributes of a model base class that no field may hide. -/
def reservedAttributes : List String := [
  "Config", "construct", "copy", "dict", "fields", "from_orm", "json", "parse_file", "parse_obj",
  "parse_raw", "schema", "schema_json", "update_forward_refs", "validate"]

/-- Names that the models module imports or annotates with.  A class attribute of such a name
would replace the type in every later annotation of the class. -/
def modelSymbols : List String := [
  "Any", "BaseModel", "Enum", "Field", "List", "Optional", "bool", "bytes", "confloat", "conint",
  "constr", "date", "datetime", "float", "int", "list", "str", "validator"]

/-- Arguments, locals and modules that the body of a client function uses. -/
def clientNames : List String := [
  "aiohttp", "headers", "headers_", "json", "kwargs", "params", "proxies", "proxies_", "proxy",
  "req_data", "requests", "response_obj", "session", "url"]

/-- Whether the word is a keyword. -/
def isKeyword (s : String) : Bool := keywords.contains s

/-- Letters, digits and the underscore, in ASCII: the source files stay readable everywhere. -/
def isIdentifierChar (c : Char) : Bool :=
  ('A' ≤ c && c ≤ 'Z') || ('a' ≤ c && c ≤ 'z') || ('0' ≤ c && c ≤ '9') || c == '_'

/-- Whether the text is a valid identifier. -/
def isValidIdentifier (s : String) : Bool :=
  match s.toList with
  | [] => false
  | c :: cs => !c.isDigit && (c :: cs).all isIdentifierChar && !isKeyword s

/-- A character that no identifier holds becomes an underscore. -/
def maskChar (c : Char) : Char := if isIdentifierChar c then c else '_'

theorem isIdentifierChar_maskChar (c : Char) : isIdentifierChar (maskChar c) = true := by
  unfold maskChar
  split
  · assumption
  · decide

theorem maskChar_of_isIdentifierChar {c : Char} (h : isIdentifierChar c = true) :
    maskChar c = c := by
  simp [maskChar, h]

/-- The masked text, never empty and never with a digit in front. -/
def maskWord (cs : List Char) : List Char :=
  match cs.map maskChar with
  | [] => ['_']
  | c :: rest => if c.isDigit then '_' :: c :: rest else c :: rest

theorem maskWord_nil : maskWord [] = ['_'] := rfl

theorem maskWord_ne_nil (cs : List Char) : maskWord cs ≠ [] := by
  unfold maskWord
  split
  · simp
  · split <;> simp

/-- Maps any text onto a valid identifier: foreign characters become underscores, a leading digit
gets an underscore in front and a keyword one behind. -/
def sanitize (raw : String) : String :=
  let word := String.ofList (maskWord raw.toList)
  if isKeyword word then word ++ "_" else word

/-- Maps a property name onto a field name.  A leading underscore would make the attribute private,
so such a name starts with `field`; a name that hides an attribute or a type ends in an
underscore. -/
def sanitizeField (raw : String) : String :=
  let name := sanitize raw
  if name.toList.head? == some '_' then "field" ++ name
  else if reservedAttributes.contains name || modelSymbols.contains name then name ++ "_"
  else name

/-- Maps a path parameter onto an argument name that the function does not need for itself. -/
def sanitizeParameter (raw : String) : String :=
  let name := sanitize raw
  if clientNames.contains name then name ++ "_param" else name

/-- The name with a counter behind it. -/
def numbered (base : String) (k : Nat) : String := base ++ "_" ++ toString k

/-- The largest value of the counter, a signed machine number of 32 bits. -/
def counterMax : Nat := 2147483647

/-- Looks for a name that is not taken, with `current` first.  The candidate behind it has the
counter `counter`, which is counted up with it and has `left` more values to come.  The result is
`none` if the counter has to go beyond the last of them: the program then stops, or goes on with a
counter that has wrapped around, depending on how it was built. -/
def search? (taken : List String) (base : String) :
    (left : Nat) → (current : String) → (counter : Nat) → Option String
  | 0, current, _ => if taken.contains current then none else some current
  | left + 1, current, counter =>
    if taken.contains current then search? taken base left (numbered base counter) (counter + 1)
    else some current

/-- `base` itself, or the first of `base_2`, `base_3`, … that is not taken. -/
def unique? (taken : List String) (base : String) : Option String :=
  search? taken base (counterMax - 2) base 2

/-- The first of `numbered base k, numbered base (k + 1), …` that is not taken, looking at no more
than `tries` of them before settling for the next. -/
def firstFree (taken : List String) (base : String) : (tries k : Nat) → String
  | 0, k => numbered base k
  | tries + 1, k =>
    if taken.contains (numbered base k) then firstFree taken base tries (k + 1)
    else numbered base k

/-- The name that is found for `base`.  A scope that has used up all counters, which takes more
names than any document holds, is given larger ones. -/
def unique (taken : List String) (base : String) : String :=
  (unique? taken base).getD (firstFree taken base taken.length 2)

/-- Makes the names of one scope distinct, from the first to the last, starting from names that
are taken already. -/
def uniqueAll (taken : List String) : List String → List String
  | [] => []
  | base :: rest =>
    let name := unique taken base
    name :: uniqueAll (name :: taken) rest

theorem uniqueAll_nil (taken : List String) : uniqueAll taken [] = [] := rfl

theorem uniqueAll_cons (taken : List String) (base : String) (rest : List String) :
    uniqueAll taken (base :: rest) =
      unique taken base :: uniqueAll (unique taken base :: taken) rest := rfl

theorem length_uniqueAll (taken bases : List String) :
    (uniqueAll taken bases).length = bases.length := by
  induction bases generalizing taken with
  | nil => rfl
  | cons base rest ih => simp [uniqueAll_cons, ih]

theorem length_uniqueAll_map {α : Type} (taken : List String) (f : α → String) (xs : List α) :
    (uniqueAll taken (xs.map f)).length = xs.length := by
  rw [length_uniqueAll, List.length_map]

end TypedClient.Lexical
