import TypedClient.Text.Hex
import TypedClient.Text.Unprintable

/-!
# Quoted text in messages

Messages show a text between double quotes with everything visible: control characters, separators
and combining signs are written by their code points.
-/

namespace TypedClient.Text

/-- The visible form of one character between double quotes. -/
def visibleChar (c : Char) : List Char :=
  match c with
  | '\x00' => ['\\', '0']
  | '\t' => ['\\', 't']
  | '\r' => ['\\', 'r']
  | '\n' => ['\\', 'n']
  | '\\' => ['\\', '\\']
  | '"' => ['\\', '"']
  | c =>
    if isPrintable c && !isCombining c then [c]
    else '\\' :: 'u' :: '\x7b' :: hexChars c.toNat ++ ['\x7d']

/-- A text between double quotes with every character visible. -/
def visible (s : String) : String := String.ofList ('"' :: s.toList.flatMap visibleChar ++ ['"'])

end TypedClient.Text
