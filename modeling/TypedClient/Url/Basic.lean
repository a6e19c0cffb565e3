import TypedClient.Url.Host

/-!
# Addresses

An address is taken apart into scheme, user, host, port, path, query and fragment, each in its
normal form, and put together again by `Url.text`.  Web addresses (`http`, `https`, `ws`, `wss`,
`ftp`) always have a host and a path; in them a backslash counts as a slash.
-/

namespace TypedClient

open Text Url

/-- The path of an address. -/
inductive UrlPath where
  /-- Segments, each behind a slash. -/
  | segments (parts : List (List Char))
  /-- A text without structure, as behind `mailto:`. -/
  | plain (text : List Char)

/-- An address in normal form. -/
structure Url where
  scheme : List Char
  /-- User, host and port as written between the slashes and the path. -/
  authority : Option (List Char)
  path : UrlPath
  query : Option (List Char)
  fragment : Option (List Char)

namespace Url

/-- The written form of a path. -/
def pathChars : UrlPath → List Char
  | .segments parts => parts.flatMap ('/' :: ·)
  | .plain text => text

/-- The written form of an address. -/
def chars (u : Url) : List Char :=
  u.scheme ++ [':'] ++ (u.authority.map fun a => ['/', '/'] ++ a).getD [] ++ pathChars u.path ++
  (u.query.map ('?' :: ·)).getD [] ++ (u.fragment.map ('#' :: ·)).getD []

/-- An address as text. -/
def text (u : Url) : String := String.ofList u.chars

/-- The address without user and password. -/
def withoutUser (u : Url) : Url :=
  { u with authority := u.authority.map fun a =>
      if a.contains '@' then (a.dropWhile (· != '@')).drop 1 else a }

theorem withoutUser_path (u : Url) : u.withoutUser.path = u.path := rfl

/-! ## Schemes -/

/-- The schemes of web addresses. -/
def webSchemes : List (String × Nat) := [
  ("http", 80), ("https", 443), ("ws", 80), ("wss", 443), ("ftp", 21)]

/-- Whether the scheme is that of a web address. -/
def isWebScheme (scheme : List Char) : Bool :=
  webSchemes.any fun (name, _) => name.toList == scheme

/-- The port that a scheme stands for. -/
def defaultPort? (scheme : List Char) : Option Nat := webSchemes.lookup (String.ofList scheme)

/-- Whether the character can stand in a scheme. -/
def isSchemeChar (c : Char) : Bool :=
  c.isAlphanum || c == '+' || c == '-' || c == '.'

/-- Splits an address at the colon behind its scheme. -/
def splitScheme? (cs : List Char) : Option (List Char × List Char) :=
  match cs with
  | c :: _ =>
    if c.isAlpha then
      match cs.dropWhile isSchemeChar with
      | ':' :: rest => some ((cs.takeWhile isSchemeChar).map Char.toLower, rest)
      | _ => none
    else none
  | [] => none

/-! ## Authority -/

/-- Splits the text behind the slashes at the first character that ends the authority. -/
def splitAuthority (isWeb : Bool) (cs : List Char) : List Char × List Char :=
  let ends (c : Char) := c == '/' || c == '?' || c == '#' || (isWeb && c == '\\')
  (cs.takeWhile (!ends ·), cs.dropWhile (!ends ·))

/-- Splits a list at the last occurrence of a character. -/
def splitLast? (mark : Char) (cs : List Char) : Option (List Char × List Char) :=
  if cs.contains mark then
    some (((cs.reverse.dropWhile (· != mark)).drop 1).reverse,
      (cs.reverse.takeWhile (· != mark)).reverse)
  else none

/-- The written form of user and password, with the sign that ends them. -/
def userChars (cs : List Char) : List Char :=
  let name := percentEncode inUserSet (cs.takeWhile (· != ':'))
  let password := percentEncode inUserSet ((cs.dropWhile (· != ':')).drop 1)
  let both := if password.isEmpty then name else name ++ ':' :: password
  if both.isEmpty then [] else both ++ ['@']

/-- Splits host and port at the first colon outside of brackets. -/
def splitPort (inBrackets : Bool) : List Char → List Char × Option (List Char)
  | [] => ([], none)
  | c :: cs =>
    if c == ':' && !inBrackets then ([], some cs)
    else
      let inside := if c == '[' then true else if c == ']' then false else inBrackets
      let (host, port) := splitPort inside cs
      (c :: host, port)

/-- The written form of a port; a port that the scheme stands for is left out. -/
def portChars (scheme : List Char) (port : Option (List Char)) : Except UrlError (List Char) :=
  match port with
  | none => .ok []
  | some ds =>
    if ds.all Char.isDigit then
      match valueInBase? 10 ds with
      | none => .error .badPort
      | some n =>
        if 65535 < n then .error .badPort
        else if ds.isEmpty || defaultPort? scheme == some n then .ok []
        else .ok (':' :: Nat.toDigits 10 n)
    else .error .badPort

/-- The written form of an authority.  A colon needs a host in front of it, and so does a user. -/
def authorityChars (scheme : List Char) (isWeb : Bool) (cs : List Char) :
    Except UrlError (List Char) :=
  let (user, address) := (splitLast? '@' cs).getD ([], cs)
  let (host, port) := splitPort false address
  if cs.contains '@' && user.isEmpty && address.isEmpty then .error .emptyHost
  else if isWeb && host.isEmpty then .error .emptyHost
  else
    match if isWeb then webHost host else opaqueHost host with
    | .error e => .error e
    | .ok written =>
      if written.isEmpty && (port.isSome || !(userChars user).isEmpty) then .error .emptyHost
      else
        match portChars scheme port with
        | .error e => .error e
        | .ok p => .ok (userChars user ++ written ++ p)

/-! ## Path, query and fragment -/

/-- Whether a segment stands for its own directory. -/
def isDot (segment : List Char) : Bool :=
  let s := segment.map Char.toLower
  s == ['.'] || s == ['%', '2', 'e']

/-- Whether a segment stands for the directory above. -/
def isDotDot (segment : List Char) : Bool :=
  let s := segment.map Char.toLower
  s == ['.', '.'] || s == ['.', '%', '2', 'e'] || s == ['%', '2', 'e', '.'] ||
  s == ['%', '2', 'e', '%', '2', 'e']

/-- Takes the dots out of a path.  `done` holds the segments so far in reverse; dots in the last
place leave an empty segment. -/
def normalSegments (done : List (List Char)) : List (List Char) → List (List Char)
  | [] => done.reverse
  | segment :: rest =>
    if isDotDot segment then
      normalSegments (if rest.isEmpty then [] :: done.drop 1 else done.drop 1) rest
    else if isDot segment then
      normalSegments (if rest.isEmpty then [] :: done else done) rest
    else normalSegments (segment :: done) rest

/-- Splits the rest of an address into path, query and fragment. -/
def splitTail (cs : List Char) : List Char × Option (List Char) × Option (List Char) :=
  let beforeFragment := cs.takeWhile (· != '#')
  let fragment :=
    match cs.dropWhile (· != '#') with
    | [] => none
    | _ :: rest => some rest
  let path := beforeFragment.takeWhile (· != '?')
  let query :=
    match beforeFragment.dropWhile (· != '?') with
    | [] => none
    | _ :: rest => some rest
  (path, query, fragment)

/-- The normal form of a path that starts with a slash or is empty. -/
def pathSegments (isWeb : Bool) (path : List Char) : List (List Char) :=
  let isSlash (c : Char) := c == '/' || (isWeb && c == '\\')
  let body :=
    match path with
    | [] => []
    | c :: rest => if isSlash c then rest else c :: rest
  if path.isEmpty && !isWeb then []
  else normalSegments [] ((splitAt isSlash body).map (percentEncode inPathSet))

/-- Puts an address together from its scheme, its authority and everything behind that. -/
def assemble (scheme : List Char) (isWeb : Bool) (authority : Option (List Char))
    (tail : List Char) : Url :=
  let (path, query, fragment) := splitTail tail
  let structured := authority.isSome || path.head? == some '/'
  ⟨scheme, authority,
    if structured then .segments (pathSegments isWeb path)
    else .plain (percentEncode isControl path),
    query.map (percentEncode (if isWeb then inSpecialQuerySet else inQuerySet)),
    fragment.map (percentEncode inFragmentSet)⟩

/-- The normal form of an address of a file: the local host is left out. -/
def parseFile (rest : List Char) : Except UrlError Url :=
  let unified := rest.map fun c => if c == '\\' then '/' else c
  match unified with
  | '/' :: '/' :: cs =>
    let (host, tail) := splitAuthority true cs
    if host.isEmpty then .ok (assemble "file".toList true (some []) tail)
    else
      match webHost host with
      | .error e => .error e
      | .ok written =>
        .ok (assemble "file".toList true
          (some (if written == "localhost".toList then [] else written)) tail)
  | cs => .ok (assemble "file".toList true (some []) cs)

/-- Characters that are passed over at the ends of an address. -/
def isOuterBlank (c : Char) : Bool := c.toNat ≤ 0x20

/-- Characters that are passed over wherever they stand. -/
def isInnerBlank (c : Char) : Bool := c == '\t' || c == '\n' || c == '\r'

/-- Reads an address. -/
def parse (input : String) : Except UrlError Url :=
  let trimmed := ((input.toList.dropWhile isOuterBlank).reverse.dropWhile isOuterBlank).reverse
  let cs := trimmed.filter (!isInnerBlank ·)
  match splitScheme? cs with
  | none => .error .noScheme
  | some (scheme, rest) =>
    if scheme == "file".toList then parseFile rest
    else if isWebScheme scheme then
      let (authority, tail) := splitAuthority true (rest.dropWhile fun c => c == '/' || c == '\\')
      match authorityChars scheme true authority with
      | .error e => .error e
      | .ok a => .ok (assemble scheme true (some a) tail)
    else
      match rest with
      | '/' :: '/' :: cs =>
        let (authority, tail) := splitAuthority false cs
        match authorityChars scheme false authority with
        | .error e => .error e
        | .ok a => .ok (assemble scheme false (some a) tail)
      | cs => .ok (assemble scheme false none cs)

end Url

end TypedClient
