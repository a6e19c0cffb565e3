import Mathlib.Tactic.Common
import TypedClient.Text.Blank

/-!
# Outer lines

The outline of a module are its lines that begin in the first column. A text is scanned for them
piece by piece (`scan_append`), where the position in the current line is all that one piece has to
tell the next: inside an indented line nothing but a line break counts (`scan_inner`), and in an
outer one the text so far. What a scan finds are the outer lines (`outerLines_eq`), and taking white
space away from the end of the text leaves them alone (`outerLines_trimEnd`).
-/

namespace TypedClient.Text

/-! ## Lines -/

/-- Characters that end a line. -/
def isLineBreak (c : Char) : Bool := c == '\n' || c == '\r'

/-- The text has no line break. -/
def OnOneLine (cs : List Char) : Prop := ∀ c ∈ cs, isLineBreak c = false

instance (cs : List Char) : Decidable (OnOneLine cs) :=
  List.decidableBAll (fun c => isLineBreak c = false) cs

/-- The lines between the line breaks. -/
def linesOf (cs : List Char) : List (List Char) := splitAt isLineBreak cs

/-- Whether the line is not blank and begins with no space. -/
def isOuter (line : List Char) : Bool := line.any (fun c => !isBlank c) && line.head? != some ' '

/-- The lines that begin in the first column. -/
def outerLines (cs : List Char) : List (List Char) := (linesOf cs).filter isOuter

theorem OnOneLine.append {cs ds : List Char} (hcs : OnOneLine cs) (hds : OnOneLine ds) :
    OnOneLine (cs ++ ds) := List.forall_mem_append.2 ⟨hcs, hds⟩

theorem isOuter_append {line : List Char} (h : isOuter line = true) (cs : List Char) :
    isOuter (line ++ cs) = true := by
  cases line with
  | nil => cases h
  | cons d line =>
      simp only [isOuter, Bool.and_eq_true, List.head?_cons, List.cons_append] at h ⊢
      refine ⟨?_, h.2⟩
      rw [← List.cons_append, List.any_append, h.1, Bool.true_or]

/-! ## Scanning -/

/-- Where a scan stands. -/
inductive Position where
  /-- At the beginning of a line. -/
  | fresh
  /-- In a line that begins with a space. -/
  | inner
  /-- In another line, behind the given text. -/
  | outer (line : List Char)
  deriving DecidableEq

namespace Position

/-- The outer line that ends here, if there is one. -/
def line? : Position → List (List Char)
  | outer line => if isOuter line then [line] else []
  | _ => []

/-- The position behind a character. -/
def after (a : Position) (c : Char) : Position :=
  if isLineBreak c then fresh
  else
    match a with
    | fresh => if c == ' ' then inner else outer [c]
    | inner => inner
    | outer line => outer (line ++ [c])

/-- The line so far. -/
def Holds : Position → List Char → Prop
  | fresh, line => line = []
  | inner, line => line.head? = some ' '
  | outer given, line => line = given

theorem after_of_isLineBreak {c : Char} (hc : isLineBreak c = true) (a : Position) :
    a.after c = fresh := if_pos hc

section

variable {c : Char} (hc : isLineBreak c = false)
include hc

theorem after_fresh : fresh.after c = if c == ' ' then inner else outer [c] :=
  if_neg (by simp [hc])

theorem after_inner : inner.after c = inner := if_neg (by simp [hc])

theorem after_outer (line : List Char) : (outer line).after c = outer (line ++ [c]) :=
  if_neg (by simp [hc])

end

theorem filter_isOuter_of_holds {a : Position} {line : List Char} (h : a.Holds line) :
    [line].filter isOuter = a.line? := by
  cases a with
  | fresh =>
      obtain rfl : line = [] := h
      rfl
  | inner =>
      have hhead : line.head? = some ' ' := h
      simp [line?, isOuter, hhead]
  | outer given =>
      obtain rfl : line = given := h
      cases houter : isOuter line <;> simp [line?, houter]

theorem holds_after {a : Position} {line : List Char} (h : a.Holds line) {c : Char}
    (hc : isLineBreak c = false) : (a.after c).Holds (line ++ [c]) := by
  cases a with
  | fresh =>
      obtain rfl : line = [] := h
      rw [after_fresh hc]
      by_cases hspace : c = ' '
      · simp [hspace, Holds]
      · simp [hspace, Holds]
  | inner =>
      have hhead : line.head? = some ' ' := h
      rw [after_inner hc]
      simp [Holds, List.head?_append, hhead]
  | outer given =>
      obtain rfl : line = given := h
      rw [after_outer hc]
      rfl

end Position

/-- The outer lines that end in the text, and the position behind it. -/
def scan : Position → List Char → List (List Char) × Position
  | a, [] => ([], a)
  | a, c :: cs =>
    ((if isLineBreak c then a.line? else []) ++ (scan (a.after c) cs).1, (scan (a.after c) cs).2)

theorem scan_append (a : Position) (cs ds : List Char) :
    scan a (cs ++ ds) =
      ((scan a cs).1 ++ (scan (scan a cs).2 ds).1, (scan (scan a cs).2 ds).2) := by
  induction cs generalizing a with
  | nil => rfl
  | cons c cs ih => rw [List.cons_append, scan, ih, scan, List.append_assoc]

theorem scan_inner {cs : List Char} (h : OnOneLine cs) : scan .inner cs = ([], .inner) := by
  induction cs with
  | nil => rfl
  | cons c cs ih =>
      have hc := h c List.mem_cons_self
      rw [scan, Position.after_inner hc, hc, if_neg Bool.false_ne_true,
        ih fun d hd => h d (List.mem_cons_of_mem c hd)]
      rfl

theorem scan_outer {cs : List Char} (h : OnOneLine cs) (line : List Char) :
    scan (.outer line) cs = ([], .outer (line ++ cs)) := by
  induction cs generalizing line with
  | nil => rw [scan, List.append_nil]
  | cons c cs ih =>
      have hc := h c List.mem_cons_self
      rw [scan, Position.after_outer hc, hc, if_neg Bool.false_ne_true,
        ih fun d hd => h d (List.mem_cons_of_mem c hd), List.append_assoc]
      rfl

theorem scan_fresh {c : Char} {cs : List Char} (hc : c ≠ ' ') (h : OnOneLine (c :: cs)) :
    scan .fresh (c :: cs) = ([], .outer (c :: cs)) := by
  have hbreak := h c List.mem_cons_self
  rw [scan, Position.after_fresh hbreak, hbreak, if_neg Bool.false_ne_true,
    if_neg (by simpa using hc), scan_outer fun d hd => h d (List.mem_cons_of_mem c hd)]
  rfl

theorem filter_linesOf_append {a : Position} {line : List Char} (h : a.Holds line)
    (hline : OnOneLine line) (cs : List Char) :
    (linesOf (line ++ cs)).filter isOuter = (scan a cs).1 ++ (scan a cs).2.line? := by
  induction cs generalizing a line with
  | nil =>
      rw [List.append_nil, linesOf, splitAt_of_all_not hline]
      exact Position.filter_isOuter_of_holds h
  | cons c cs ih =>
      cases hc : isLineBreak c with
      | true =>
          have hfresh := ih (show Position.Holds .fresh [] from rfl)
            fun d hd => absurd hd List.not_mem_nil
          rw [linesOf, splitAt_append_cons hc, splitAt_of_all_not hline, List.filter_append,
            Position.filter_isOuter_of_holds h, scan, Position.after_of_isLineBreak hc, if_pos hc,
            List.append_assoc]
          exact congrArg (a.line? ++ ·) hfresh
      | false =>
          have hnext := ih (Position.holds_after h hc)
            (hline.append (List.forall_mem_singleton.2 hc))
          rw [scan, hc, if_neg Bool.false_ne_true, List.nil_append, ← hnext, List.append_assoc]
          rfl

/-- A scan from the beginning finds the outer lines. -/
theorem outerLines_eq (cs : List Char) :
    outerLines cs = (scan .fresh cs).1 ++ (scan .fresh cs).2.line? :=
  filter_linesOf_append (show Position.Holds .fresh [] from rfl)
    (fun _ hd => absurd hd List.not_mem_nil) cs

/-! ## White space at the end -/

theorem exists_trimEnd_append (cs : List Char) :
    ∃ blanks, cs = trimEnd cs ++ blanks ∧ ∀ c ∈ blanks, isBlank c = true := by
  induction cs with
  | nil => exact ⟨[], rfl, fun c hc => absurd hc List.not_mem_nil⟩
  | cons c cs ih =>
      obtain ⟨blanks, heq, hblanks⟩ := ih
      unfold trimEnd
      split
      · next hnil =>
          rw [hnil, List.nil_append] at heq
          split
          · next hc => exact ⟨c :: cs, rfl, List.forall_mem_cons.2 ⟨hc, heq ▸ hblanks⟩⟩
          · exact ⟨cs, rfl, heq ▸ hblanks⟩
      · next d ds hcons =>
          refine ⟨blanks, ?_, hblanks⟩
          rw [hcons] at heq
          exact congrArg (c :: ·) heq

/-- What ends in other text than white space stays as it is. -/
theorem trimEnd_append {tail : List Char} (hne : tail ≠ []) (h : trimEnd tail = tail)
    (cs : List Char) : trimEnd (cs ++ tail) = cs ++ tail := by
  induction cs with
  | nil => exact h
  | cons c cs ih =>
      rw [List.cons_append, trimEnd, ih]
      obtain ⟨d, ds, hcons⟩ :=
        List.exists_cons_of_ne_nil (List.append_ne_nil_of_right_ne_nil cs hne)
      rw [hcons]

theorem length_trimEnd_le (cs : List Char) : (trimEnd cs).length ≤ cs.length := by
  obtain ⟨blanks, heq, -⟩ := exists_trimEnd_append cs
  conv_rhs => rw [heq]
  rw [List.length_append]
  omega

/-- White space ends the current line, and it adds to no outer line that ends in other text. -/
theorem scan_blanks {a : Position} {blanks : List Char} (hblanks : ∀ c ∈ blanks, isBlank c = true)
    (h : ∀ line ∈ (scan a blanks).1 ++ (scan a blanks).2.line?, trimEnd line = line) :
    (scan a blanks).1 ++ (scan a blanks).2.line? = a.line? := by
  induction blanks generalizing a with
  | nil => rfl
  | cons c blanks ih =>
      have hc := hblanks c List.mem_cons_self
      have ih := fun b => ih (a := b) fun d hd => hblanks d (List.mem_cons_of_mem c hd)
      rw [scan, List.append_assoc] at h ⊢
      rw [List.forall_mem_append] at h
      have hrest := ih _ h.2
      rw [hrest] at h ⊢
      cases hbreak : isLineBreak c with
      | true =>
          rw [Position.after_of_isLineBreak hbreak, if_pos rfl]
          exact List.append_nil _
      | false =>
          rw [if_neg Bool.false_ne_true, List.nil_append]
          cases a with
          | fresh =>
              rw [Position.after_fresh hbreak]
              by_cases hspace : c = ' '
              · simp [hspace, Position.line?]
              · simp [hspace, Position.line?, isOuter, hc]
          | inner => rw [Position.after_inner hbreak]
          | outer line =>
              rw [Position.after_outer hbreak] at h ⊢
              have hlonger : isOuter (line ++ [c]) = false := by
                by_contra houter
                have houter : isOuter (line ++ [c]) = true := by simpa using houter
                have hsame := h.2 (line ++ [c]) (by simp [Position.line?, houter])
                have hlength := length_trimEnd_le line
                rw [trimEnd_append_blank line hc] at hsame
                rw [hsame, List.length_append, List.length_singleton] at hlength
                omega
              have hshorter : isOuter line = false := by
                by_contra houter
                have houter : isOuter line = true := by simpa using houter
                rw [isOuter_append houter] at hlonger
                cases hlonger
              simp [Position.line?, hlonger, hshorter]

/-- Without the white space at its end, a text has the same outer lines, if each of them ends in
other text. -/
theorem outerLines_trimEnd {cs : List Char} (h : ∀ line ∈ outerLines cs, trimEnd line = line) :
    outerLines (trimEnd cs ++ ['\n']) = outerLines cs := by
  obtain ⟨blanks, heq, hblanks⟩ := exists_trimEnd_append cs
  have hall : outerLines cs = (scan .fresh (trimEnd cs)).1 ++
      ((scan (scan .fresh (trimEnd cs)).2 blanks).1 ++
        (scan (scan .fresh (trimEnd cs)).2 blanks).2.line?) := by
    conv_lhs => rw [heq]
    rw [outerLines_eq, scan_append, List.append_assoc]
  rw [hall, List.forall_mem_append] at h
  have hbreak : ∀ a, (scan a ['\n']).1 ++ (scan a ['\n']).2.line? = a.line? := fun a =>
    (List.append_nil _).trans (List.append_nil _)
  rw [hall, scan_blanks hblanks h.2, outerLines_eq, scan_append, List.append_assoc, hbreak]

end TypedClient.Text
