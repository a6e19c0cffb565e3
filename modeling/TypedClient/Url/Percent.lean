import TypedClient.Text.Hex

/-!
# Percent-encoding

Characters that have no place in some part of an address are written as the bytes of their UTF-8
form, each as a percent sign and two hexadecimal digits.
-/

namespace TypedClient.Url

/-- Controls and everything outside of ASCII are encoded in every part. -/
def isControl (c : Char) : Bool := c.toNat < 0x20 || 0x7F ≤ c.toNat

/-- Characters encoded in a fragment. -/
def inFragmentSet (c : Char) : Bool :=
  isControl c || c == ' ' || c == '"' || c == '<' || c == '>' || c == '\x60'

/-- Characters encoded in a path. -/
def inPathSet (c : Char) : Bool :=
  inFragmentSet c || c == '#' || c == '?' || c == '\x7b' || c == '\x7d'

/-- Characters encoded in the name and password of a user. -/
def inUserSet (c : Char) : Bool :=
  inPathSet c || c == '/' || c == ':' || c == ';' || c == '=' || c == '@' || c == '[' ||
  c == '\\' || c == ']' || c == '^' || c == '|'

/-- Characters encoded in a query. -/
def inQuerySet (c : Char) : Bool :=
  isControl c || c == ' ' || c == '"' || c == '#' || c == '<' || c == '>'

/-- Characters encoded in the query of a web address. -/
def inSpecialQuerySet (c : Char) : Bool := inQuerySet c || c == '\''

/-- The escape of one byte. -/
def percentByte (b : UInt8) : List Char :=
  ['%', Text.upperHexDigit (b.toNat / 16), Text.upperHexDigit (b.toNat % 16)]

/-- Encodes the characters of the set and keeps the others. -/
def percentEncode (inSet : Char → Bool) (cs : List Char) : List Char :=
  cs.flatMap fun c => if inSet c then (String.utf8EncodeChar c).flatMap percentByte else [c]

theorem percentEncode_nil (inSet : Char → Bool) : percentEncode inSet [] = [] := rfl

theorem percentEncode_append (inSet : Char → Bool) (a b : List Char) :
    percentEncode inSet (a ++ b) = percentEncode inSet a ++ percentEncode inSet b := by
  simp [percentEncode]

/-- The bytes that a text stands for: escapes are undone, and a percent sign without two digits
behind it stands for itself. -/
def percentDecode : List Char → List UInt8
  | [] => []
  | '%' :: a :: b :: rest =>
    match Text.hexValue? a, Text.hexValue? b with
    | some h, some l => UInt8.ofNat (h * 16 + l) :: percentDecode rest
    | _, _ => String.utf8EncodeChar '%' ++ percentDecode (a :: b :: rest)
  | c :: rest => String.utf8EncodeChar c ++ percentDecode rest

end TypedClient.Url
