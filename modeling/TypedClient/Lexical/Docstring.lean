import TypedClient.Text.Blank

/-!
# Docstrings

The text between the triple quotes of a docstring: one line of words, in which typographic quotes
and dashes are written in ASCII and nothing can end the string early.
-/

namespace TypedClient.Lexical

open TypedClient.Text

/-- Typographic quotes and dashes in ASCII. -/
def plainPunctuation (c : Char) : Char :=
  if c == '\u2018' || c == '\u2019' then '\''
  else if c == '\u201c' || c == '\u201d' then '"'
  else if c == '\u2013' || c == '\u2014' then '-'
  else c

/-- One line of the text: trimmed, with single spaces. -/
def docstringLine (line : List Char) : List Char :=
  collapseBlanks (trim (line.map plainPunctuation))

/-- The lines that are not blank, side by side. -/
def docstringWords (cs : List Char) : List Char :=
  joinWith [' '] (((lines cs).map docstringLine).filter fun line => !line.isEmpty)

/-- Doubles every backslash, then escapes the quotes of each group of three. -/
def escapeDocstring (cs : List Char) : List Char :=
  replaceAll ['"', '"', '"'] ['\\', '"', '\\', '"', '\\', '"'] (replaceAll ['\\'] ['\\', '\\'] cs)

/-- The summary of an operation as it stands inside a docstring. -/
def docstring (summary : String) : String :=
  String.ofList (escapeDocstring (docstringWords summary.toList))

end TypedClient.Lexical
