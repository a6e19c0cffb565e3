/-!
# Python string literals

A text is written between double quotes.  Five characters are escaped, the rest stand for
themselves, so that the literal ends at its own closing quote and stays on one line.
-/

namespace TypedClient.Lexical

/-- The written form of one character inside double quotes. -/
def escapeChar (c : Char) : List Char :=
  match c with
  | '\\' => ['\\', '\\']
  | '"' => ['\\', '"']
  | '\n' => ['\\', 'n']
  | '\r' => ['\\', 'r']
  | '\t' => ['\\', 't']
  | c => [c]

/-- The characters between the quotes. -/
def escapeText (cs : List Char) : List Char := cs.flatMap escapeChar

theorem escapeText_nil : escapeText [] = [] := rfl

theorem escapeText_cons (c : Char) (cs : List Char) :
    escapeText (c :: cs) = escapeChar c ++ escapeText cs := rfl

theorem escapeText_append (a b : List Char) :
    escapeText (a ++ b) = escapeText a ++ escapeText b := by
  simp [escapeText]

/-- The literal of a text. -/
def quote (s : String) : String := String.ofList ('"' :: escapeText s.toList ++ ['"'])

theorem toList_quote (s : String) : (quote s).toList = '"' :: escapeText s.toList ++ ['"'] := by
  simp [quote]

end TypedClient.Lexical
