import TypedClient.Yaml.Spot

/-!
# Folding of lines

Inside a flowing scalar the blanks around a line end vanish.  One line end becomes a space, and of
several the first vanishes and the others stay.  Blanks that meet no line end are text.
-/

namespace TypedClient.Yaml

/-- The blanks and line ends since the last visible character, in reverse. -/
inductive Gap where
  /-- Blanks within a line. -/
  | blanks (done : List Char)
  /-- Line ends; the blanks among them do not count. -/
  | breaks (done : List Char)
  /-- Line ends behind one that was escaped. -/
  | joined (done : List Char)

/-- No gap at all. -/
def Gap.empty : Gap := blanks []

/-- Whether there is nothing in the gap. -/
def Gap.isEmpty : Gap → Bool
  | blanks [] => true
  | _ => false

/-- Whether the gap reaches over a line end. -/
def Gap.isBroken : Gap → Bool
  | blanks _ => false
  | _ => true

/-- Adds a blank. -/
def Gap.addBlank (c : Char) : Gap → Gap
  | blanks done => blanks (c :: done)
  | gap => gap

/-- Adds a line end. -/
def Gap.addBreak (c : Char) : Gap → Gap
  | blanks _ => breaks [c]
  | breaks done => breaks (c :: done)
  | joined done => joined (c :: done)

/-- What is left of line ends. -/
def foldBreaks : List Char → List Char
  | ['\n'] => [' ']
  | '\n' :: more => more
  | others => others

/-- What a gap leaves in the text. -/
def Gap.text : Gap → List Char
  | blanks done => done.reverse
  | breaks done => foldBreaks done.reverse
  | joined done => done.reverse

theorem Gap.text_empty : Gap.empty.text = [] := rfl

/-- One line end becomes a space. -/
theorem Gap.text_break (gap : List Char) : ((Gap.blanks gap).addBreak '\n').text = [' '] := rfl

/-- A line end more leaves one line end more. -/
theorem Gap.text_break_break (gap : List Char) :
    (((Gap.blanks gap).addBreak '\n').addBreak '\n').text = ['\n'] := rfl

end TypedClient.Yaml
