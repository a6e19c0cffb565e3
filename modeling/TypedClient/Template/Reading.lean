import TypedClient.Json.Token
import TypedClient.Template.Syntax
import TypedClient.Template.Token

/-!
# Templates from text

A template text is read piece by piece.  Parts that are still open stand on a stack, and a closing
tag turns the uppermost one into a node of the part below it.  Macros are defined and imported
outside all other parts.
-/

namespace TypedClient.Template

open Text (splitAt)

/-! ## Names and expressions -/

/-- Whether the text is a name. -/
def isName : List Char → Bool
  | [] => false
  | c :: cs => (c.isAlpha || c == '_') && (c :: cs).all fun d => d.isAlphanum || d == '_'

/-- Whether the text is a position. -/
def isPosition (cs : List Char) : Bool := !cs.isEmpty && cs.all Char.isDigit

/-- The name that a word is. -/
def name? : Word → Option String
  | .plain cs => if isName cs then some (String.ofList cs) else none
  | _ => none

/-- The place in the variables that a word names: names and positions with points between them. -/
def path? (cs : List Char) : Option (List String) :=
  match splitAt (· == '.') cs with
  | [] => none
  | first :: rest =>
    if isName first && rest.all fun s => isName s || isPosition s then
      some ((first :: rest).map String.ofList)
    else none

/-- The literal that a word is. -/
def literal? : Word → Option Json
  | .quoted cs => some (.string (String.ofList cs))
  | .plain cs =>
    let word := String.ofList cs
    if word == "true" || word == "True" then some (.bool true)
    else if word == "false" || word == "False" then some (.bool false)
    else if (cs.head?.map Char.isDigit).getD false then (Json.readNumber? cs).map .number
    else none
  | .mark _ => none

/-- The expression of one word. -/
def simple? (w : Word) : Option Expr :=
  match literal? w with
  | some v => some (.literal v)
  | none =>
    match w with
    | .plain cs => (path? cs).map .path
    | _ => none

/-- Reads the filters behind an expression. -/
def readFilters (e : Expr) : List Word → Option Expr
  | [] => some e
  | .mark '|' :: w :: rest =>
    match name? w with
    | some filter => readFilters (.filtered e filter) rest
    | none => none
  | _ => none

/-- Cuts words at commas. -/
def splitCommas (ws : List Word) : List (List Word) :=
  ws.foldr (fun w parts =>
    if w == .mark ',' then [] :: parts
    else
      match parts with
      | [] => [[w]]
      | part :: rest => (w :: part) :: rest) [[]]

/-- The parts of a list between brackets, after which a comma may follow. -/
def listParts (ws : List Word) : List (List Word) :=
  let parts := splitCommas ws
  if parts.getLast? == some [] then parts.dropLast else parts

/-- Reads an argument.  Its value is no call. -/
def argument? : List Word → Option (String × Expr)
  | n :: .mark '=' :: w :: rest => do
    let name ← name? n
    let value ← simple? w
    let e ← readFilters value rest
    return (name, e)
  | _ => none

/-- Reads an expression without `not`. -/
def readValue : List Word → Option Expr
  | [] => none
  | s :: .mark ':' :: .mark ':' :: n :: .mark '(' :: rest => do
    let space ← name? s
    let name ← name? n
    let inner := rest.takeWhile (· != .mark ')')
    match rest.drop inner.length with
    | [] => none
    | _ :: behind =>
      let arguments ← (listParts inner).mapM argument?
      readFilters (.call space name arguments) behind
  | w :: rest =>
    match simple? w with
    | some e => readFilters e rest
    | none => none

/-- The plain word of a text. -/
def keyword (word : String) : Word := .plain word.toList

/-- Reads an expression. -/
def readExpr : List Word → Option Expr
  | [] => none
  | w :: rest =>
    if w == keyword "not" && !rest.isEmpty then (readValue rest).map .negated
    else readValue (w :: rest)

/-! ## Tags -/

/-- A tag. -/
inductive Tag where
  | load (source : Import)
  | define (name : String) (parameters : List Parameter)
  | endDefine
  | choose (condition : Expr)
  | otherwise
  | endChoose
  | each (name : String) (items : Expr)
  | endEach

/-- Reads a parameter. -/
def parameter? : List Word → Option Parameter
  | [n] => (name? n).map fun name => ⟨name, none⟩
  | [n, .mark '=', w] => do
    let name ← name? n
    let value ← literal? w
    return ⟨name, some value⟩
  | _ => none

/-- Reads the head of a macro. -/
def readDefine : List Word → Option Tag
  | n :: .mark '(' :: rest => do
    let name ← name? n
    match rest.getLast? with
    | some (.mark ')') =>
      let parameters ← (listParts rest.dropLast).mapM parameter?
      return .define name parameters
    | _ => none
  | _ => none

/-- Reads an import. -/
def readLoad : List Word → Option Tag
  | [.quoted file, as, n] => do
    let space ← name? n
    if as == keyword "as" then return .load ⟨String.ofList file, space⟩ else none
  | _ => none

/-- Reads the head of a repetition. -/
def readEach : List Word → Option Tag
  | n :: between :: rest => do
    let name ← name? n
    let items ← readValue rest
    if between == keyword "in" then return .each name items else none
  | _ => none

/-- Reads a tag. -/
def readTag : List Word → Option Tag
  | [] => none
  | w :: rest =>
    if w == keyword "import" then readLoad rest
    else if w == keyword "macro" then readDefine rest
    else if w == keyword "endmacro" then
      match rest with
      | [] => some .endDefine
      | [n] => (name? n).map fun _ => .endDefine
      | _ => none
    else if w == keyword "if" then (readExpr rest).map .choose
    else if w == keyword "for" then readEach rest
    else if !rest.isEmpty then none
    else if w == keyword "else" then some .otherwise
    else if w == keyword "endif" then some .endChoose
    else if w == keyword "endfor" then some .endEach
    else none

/-! ## Nesting -/

/-- A part that is still open. -/
inductive Opening where
  | define (name : String) (parameters : List Parameter)
  | choose (condition : Expr)
  /-- Behind `else`. -/
  | chooseNot (condition : Expr) (body : List Node)
  | each (name : String) (items : Expr)
  /-- Behind `else`. -/
  | eachNone (name : String) (items : Expr) (body : List Node)

/-- What has been read: the open parts from the inside out, each with its nodes backwards, and the
finished items backwards. -/
structure Assembly where
  stack : List (Opening × List Node) := []
  items : List Item := []

namespace Assembly

/-- Adds a node to the innermost open part. -/
def add (a : Assembly) (n : Node) : Assembly :=
  match a.stack with
  | [] => { a with items := .node n :: a.items }
  | (o, done) :: rest => { a with stack := (o, n :: done) :: rest }

/-- Opens a part. -/
def enter (a : Assembly) (o : Opening) : Assembly := { a with stack := (o, []) :: a.stack }

/-- Follows a tag. -/
def follow (a : Assembly) (t : Tag) : Option Assembly :=
  match t, a.stack with
  | .load i, [] => some { a with items := .load i :: a.items }
  | .define name parameters, [] => some (a.enter (.define name parameters))
  | .endDefine, [(.define name parameters, done)] =>
    some { stack := [], items := .define ⟨name, parameters, done.reverse⟩ :: a.items }
  | .choose c, _ => some (a.enter (.choose c))
  | .each name items, _ => some (a.enter (.each name items))
  | .otherwise, (.choose c, done) :: rest =>
    some { a with stack := (.chooseNot c done.reverse, []) :: rest }
  | .otherwise, (.each name items, done) :: rest =>
    some { a with stack := (.eachNone name items done.reverse, []) :: rest }
  | .endChoose, (.choose c, done) :: rest =>
    some ({ a with stack := rest }.add (.choice c done.reverse []))
  | .endChoose, (.chooseNot c body, done) :: rest =>
    some ({ a with stack := rest }.add (.choice c body done.reverse))
  | .endEach, (.each name items, done) :: rest =>
    some ({ a with stack := rest }.add (.each name items done.reverse []))
  | .endEach, (.eachNone name items body, done) :: rest =>
    some ({ a with stack := rest }.add (.each name items body done.reverse))
  | _, _ => none

/-- Takes a piece in. -/
def take (a : Assembly) (p : Piece) : Option Assembly :=
  match p with
  | .text [] => some a
  | .text cs => some (a.add (.text (String.ofList cs)))
  | .inside .comment _ => some a
  | .inside .slot cs => ((wordsOf cs).bind readExpr).map fun e => a.add (.print e)
  | .inside .tag cs => ((wordsOf cs).bind readTag).bind a.follow

/-- The template, if no part is open. -/
def finish (a : Assembly) : Option Template :=
  if a.stack.isEmpty then some ⟨a.items.reverse⟩ else none

end Assembly

/-- Reads a template. -/
def ofText? (text : String) : Option Template := do
  let parts ← piecesOf text.toList
  let assembly ← (trimPieces false parts).foldlM Assembly.take {}
  assembly.finish

end TypedClient.Template
