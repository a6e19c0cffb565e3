import TypedClient.Text.Blank
import TypedClient.Text.CaseMap
import TypedClient.Url.Percent
import TypedClient.Url.Punycode

/-!
# Hosts

The host of an address is a domain, an IPv4 address, which may be written in several ways, or an
IPv6 address in brackets.
-/

namespace TypedClient.Url

open TypedClient.Text

/-- Why a text is no address. -/
inductive UrlError where
  /-- There is no scheme. -/
  | noScheme
  /-- There is no host. -/
  | emptyHost
  /-- The port is no number below 65536. -/
  | badPort
  /-- The host ends in a number but is no IPv4 address. -/
  | badIpv4
  /-- The host is in brackets but is no IPv6 address. -/
  | badIpv6
  /-- The domain holds a character that no domain can have. -/
  | badDomain
  /-- The host of an address that is no web address holds a character that no host can have. -/
  | badHostCharacter
  deriving DecidableEq

/-- The message of an address error. -/
def UrlError.message : UrlError → String
  | noScheme => "relative URL without a base"
  | emptyHost => "empty host"
  | badPort => "invalid port number"
  | badIpv4 => "invalid IPv4 address"
  | badIpv6 => "invalid IPv6 address"
  | badDomain => "invalid international domain name"
  | badHostCharacter => "invalid domain character"

/-! ## IPv4 -/

/-- The value of a text in some base, if all its characters are digits of that base. -/
def valueInBase? (base : Nat) (cs : List Char) : Option Nat :=
  cs.foldlM (fun n c =>
    match hexValue? c with
    | some d => if d < base then some (n * base + d) else none
    | none => none) 0

/-- The value of one part of an IPv4 address: decimal, octal behind `0`, hexadecimal behind `0x`. -/
def ipv4Number? (cs : List Char) : Option Nat :=
  match cs with
  | [] => none
  | ['0'] => some 0
  | '0' :: x :: rest =>
    if x == 'x' || x == 'X' then valueInBase? 16 rest else valueInBase? 8 (x :: rest)
  | cs => valueInBase? 10 cs

/-- The parts of a domain without the empty one behind a final dot. -/
def domainParts (domain : List Char) : List (List Char) :=
  let parts := splitAt (· == '.') domain
  if 1 < parts.length && parts.getLast? == some [] then parts.dropLast else parts

/-- Whether a domain has to be read as an IPv4 address. -/
def endsInNumber (domain : List Char) : Bool :=
  match (domainParts domain).getLast? with
  | none => false
  | some [] => false
  | some last => last.all Char.isDigit || (ipv4Number? last).isSome

/-- The address that the parts of a domain stand for; the last part fills all bytes that remain. -/
def ipv4? (domain : List Char) : Option Nat :=
  let parts := domainParts domain
  if 4 < parts.length then none
  else
    match parts.mapM ipv4Number? with
    | none => none
    | some numbers =>
      let leading := numbers.dropLast
      let last := numbers.getLast?.getD 0
      if leading.any (255 < ·) || Nat.pow 256 (4 - leading.length) ≤ last then none
      else some (leading.zipIdx.foldl (fun n (x, i) => n + x * Nat.pow 256 (3 - i)) last)

/-- An IPv4 address with dots. -/
def ipv4Text (n : Nat) : List Char :=
  joinWith ['.'] ([n / Nat.pow 256 3 % 256, n / Nat.pow 256 2 % 256, n / 256 % 256, n % 256].map
    (Nat.toDigits 10))

/-! ## IPv6 -/

/-- The value of one group: one to four hexadecimal digits. -/
def ipv6Group? (cs : List Char) : Option Nat :=
  if cs.isEmpty || 4 < cs.length then none else valueInBase? 16 cs

/-- The value of one decimal part of an embedded IPv4 address. -/
def ipv4Byte? (cs : List Char) : Option Nat :=
  match cs with
  | [] => none
  | ['0'] => some 0
  | '0' :: _ => none
  | cs =>
    match valueInBase? 10 cs with
    | some n => if n ≤ 255 then some n else none
    | none => none

/-- The groups of a colon-separated list, where the last may be an embedded IPv4 address. -/
def ipv6Groups? : List (List Char) → Option (List Nat)
  | [] => some []
  | [last] =>
    if last.contains '.' then
      match (splitAt (· == '.') last).mapM ipv4Byte? with
      | some [a, b, c, d] => some [a * 256 + b, c * 256 + d]
      | _ => none
    else (ipv6Group? last).map ([·])
  | part :: rest =>
    match ipv6Group? part, ipv6Groups? rest with
    | some g, some gs => some (g :: gs)
    | _, _ => none

/-- The groups of one side of the gap; an empty side has none. -/
def ipv6Side? (cs : List Char) : Option (List Nat) :=
  if cs.isEmpty then some [] else ipv6Groups? (splitAt (· == ':') cs)

/-- The eight groups of an IPv6 address; two colons in a row stand for the missing zeros. -/
def ipv6? (cs : List Char) : Option (List Nat) :=
  match cutAt [':', ':'] cs with
  | none =>
    match ipv6Side? cs with
    | some groups => if groups.length == 8 then some groups else none
    | none => none
  | some (left, right) =>
    if left.contains '.' then none
    else
      match ipv6Side? left, ipv6Side? right with
      | some a, some b =>
        if a.length + b.length < 8 then
          some (a ++ List.replicate (8 - a.length - b.length) 0 ++ b)
        else none
      | _, _ => none

/-- Start and length of the first longest run of zeros, among those of two groups and more. -/
def longestZeros (groups : List Nat) : Option (Nat × Nat) :=
  (List.range groups.length).foldl (fun best i =>
    let size := ((groups.drop i).takeWhile (· == 0)).length
    match best with
    | none => if 2 ≤ size then some (i, size) else none
    | some (j, most) => if most < size then some (i, size) else some (j, most)) none

/-- An IPv6 address in brackets, with the longest run of zeros left out. -/
def ipv6Text (groups : List Nat) : List Char :=
  let written (gs : List Nat) := joinWith [':'] (gs.map (Nat.toDigits 16))
  let inner :=
    match longestZeros groups with
    | none => written groups
    | some (i, size) => written (groups.take i) ++ [':', ':'] ++ written (groups.drop (i + size))
  '[' :: inner ++ [']']

/-! ## Domains -/

/-- Characters outside ASCII that no domain can have: spaces, controls and characters of private
use. -/
def isForeignForbidden (c : Char) : Bool :=
  let n := c.toNat
  (0x7F ≤ n && n ≤ 0xA0) || (0x2000 ≤ n && n ≤ 0x200F) || (0x2028 ≤ n && n ≤ 0x202F) ||
  (0xE000 ≤ n && n ≤ 0xF8FF) || (0xFFF9 ≤ n && n ≤ 0xFFFF) || 0xE0000 ≤ n

/-- Characters that no domain can have. -/
def isForbiddenInDomain (c : Char) : Bool :=
  isForeignForbidden c || c.toNat ≤ 0x20 || c == '#' || c == '/' || c == ':' || c == '<' ||
  c == '>' || c == '?' || c == '@' || c == '[' || c == '\\' || c == ']' || c == '^' || c == '|' ||
  c == '%'

/-- Characters that no host can have. -/
def isForbiddenInHost (c : Char) : Bool :=
  c == '\x00' || c == '\t' || c == '\n' || c == '\r' || c == ' ' || c == '#' || c == '/' ||
  c == ':' || c == '<' || c == '>' || c == '?' || c == '@' || c == '[' || c == '\\' || c == ']' ||
  c == '^' || c == '|'

/-- The form of a character in a domain: lower case, full-width forms narrowed, ideographic stops
as dots, and invisible joiners dropped. -/
def domainChar (c : Char) : List Char :=
  let n := c.toNat
  if n == 0x3002 || n == 0xFF0E || n == 0xFF61 then ['.']
  else if 0xFF01 ≤ n && n ≤ 0xFF5E then lowercase (Char.ofNat (n - 0xFEE0))
  else if n == 0xAD || n == 0x200B || n == 0x2060 || n == 0xFEFF || (0xFE00 ≤ n && n ≤ 0xFE0F) then
    []
  else lowercase c

/-- One label of a domain in ASCII. -/
def asciiLabel (label : List Char) : List Char :=
  if label.all fun c => c.toNat < 0x80 then label else "xn--".toList ++ Punycode.encode label

/-- Whether a label is none in ASCII form, or the ASCII form of a label outside ASCII that is
written the way domains are. -/
def isProperLabel (label : List Char) : Bool :=
  match dropStart? "xn--".toList label with
  | none => true
  | some code =>
    match Punycode.decode? code with
    | none => false
    | some cs =>
      cs.any (0x80 ≤ ·.toNat) && cs.flatMap domainChar == cs && !cs.any isForbiddenInDomain

/-- A domain in ASCII. -/
def asciiDomain? (bytes : List UInt8) : Option (List Char) :=
  match String.fromUTF8? (ByteArray.mk bytes.toArray) with
  | none => none
  | some text =>
    let mapped := text.toList.flatMap domainChar
    let labels := splitAt (· == '.') mapped
    if mapped.any isForbiddenInDomain || !labels.all isProperLabel then none
    else some (joinWith ['.'] (labels.map asciiLabel))

/-- The written form of the host of a web address. -/
def webHost (cs : List Char) : Except UrlError (List Char) :=
  match cs with
  | '[' :: rest =>
    if rest.getLast? == some ']' then
      match ipv6? rest.dropLast with
      | some groups => .ok (ipv6Text groups)
      | none => .error .badIpv6
    else .error .badIpv6
  | cs =>
    match asciiDomain? (percentDecode cs) with
    | none => .error .badDomain
    | some [] => .error .emptyHost
    | some domain =>
      if endsInNumber domain then
        match ipv4? domain with
        | some n => .ok (ipv4Text n)
        | none => .error .badIpv4
      else .ok domain

/-- The written form of the host of any other address. -/
def opaqueHost (cs : List Char) : Except UrlError (List Char) :=
  match cs with
  | '[' :: rest =>
    if rest.getLast? == some ']' then
      match ipv6? rest.dropLast with
      | some groups => .ok (ipv6Text groups)
      | none => .error .badIpv6
    else .error .badIpv6
  | cs =>
    if cs.any isForbiddenInHost then .error .badHostCharacter
    else .ok (percentEncode isControl cs)

end TypedClient.Url
