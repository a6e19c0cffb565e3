import TypedClient.Json.Basic
import TypedClient.Text.Hex

/-!
# Written form of JSON values

`Json.text` writes a value without white space, `Json.pretty` over several lines with two spaces
for each level.  Both escape only what must be: quotes, backslashes and control characters.
-/

namespace TypedClient.Json

/-- The written form of one character between quotes. -/
def escapeChar (c : Char) : List Char :=
  match c with
  | '"' => ['\\', '"']
  | '\\' => ['\\', '\\']
  | '\n' => ['\\', 'n']
  | '\r' => ['\\', 'r']
  | '\t' => ['\\', 't']
  | '\x08' => ['\\', 'b']
  | '\x0c' => ['\\', 'f']
  | c =>
    if c.toNat < 0x20 then
      ['\\', 'u', '0', '0', Text.hexDigit (c.toNat / 16), Text.hexDigit (c.toNat % 16)]
    else [c]

/-- A text between quotes. -/
def quoteChars (cs : List Char) : List Char := '"' :: cs.flatMap escapeChar ++ ['"']

mutual

/-- The characters of a value, without white space. -/
def chars : Json → List Char
  | null => ['n', 'u', 'l', 'l']
  | bool true => ['t', 'r', 'u', 'e']
  | bool false => ['f', 'a', 'l', 's', 'e']
  | number n => n.text.toList
  | string s => quoteChars s.toList
  | array [] => ['[', ']']
  | array (x :: xs) => '[' :: (chars x ++ charsItems xs)
  | object [] => ['\x7b', '\x7d']
  | object ((k, v) :: ms) => '\x7b' :: (quoteChars k.toList ++ ':' :: (chars v ++ charsMembers ms))

/-- The items behind the first one, and the closing bracket. -/
def charsItems : List Json → List Char
  | [] => [']']
  | x :: xs => ',' :: (chars x ++ charsItems xs)

/-- The members behind the first one, and the closing brace. -/
def charsMembers : List (String × Json) → List Char
  | [] => ['\x7d']
  | (k, v) :: ms => ',' :: (quoteChars k.toList ++ ':' :: (chars v ++ charsMembers ms))

end

/-- A value as text, without white space. -/
def text (v : Json) : String := String.ofList v.chars

/-- A new line at a level of indentation. -/
def breakLine (level : Nat) : List Char := '\n' :: List.replicate (2 * level) ' '

mutual

/-- The characters of a value at a level of indentation. -/
def prettyChars (level : Nat) : Json → List Char
  | array (x :: xs) =>
    '[' :: (breakLine (level + 1) ++ prettyChars (level + 1) x ++ prettyItems level xs)
  | object ((k, v) :: ms) =>
    '\x7b' :: (breakLine (level + 1) ++ quoteChars k.toList ++ ':' :: ' ' ::
      (prettyChars (level + 1) v ++ prettyMembers level ms))
  | array [] => ['[', ']']
  | object [] => ['\x7b', '\x7d']
  | null => chars null
  | bool b => chars (bool b)
  | number n => chars (number n)
  | string s => chars (string s)

/-- The items behind the first one, and the closing bracket on a line of its own. -/
def prettyItems (level : Nat) : List Json → List Char
  | [] => breakLine level ++ [']']
  | x :: xs =>
    ',' :: (breakLine (level + 1) ++ prettyChars (level + 1) x ++ prettyItems level xs)

/-- The members behind the first one, and the closing brace on a line of its own. -/
def prettyMembers (level : Nat) : List (String × Json) → List Char
  | [] => breakLine level ++ ['\x7d']
  | (k, v) :: ms =>
    ',' :: (breakLine (level + 1) ++ quoteChars k.toList ++ ':' :: ' ' ::
      (prettyChars (level + 1) v ++ prettyMembers level ms))

end

/-- A value as text over several lines. -/
def pretty (v : Json) : String := String.ofList (v.prettyChars 0)

end TypedClient.Json
