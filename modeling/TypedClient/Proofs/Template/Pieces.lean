import Mathlib.Tactic.Common
import TypedClient.Template.Printer
import TypedClient.Template.Reading

/-!
# Pieces of written templates

The written form of a template is a sequence of pieces (`toList_templateWritten`). They are cut out
of it again as they are, with empty texts between brackets that touch, as long as no text opens a
bracket and no bracket closes early (`pieces_chars`, `trimPieces_cutPieces`).
-/

namespace TypedClient.Template

/-! ## Pieces of a written template -/

/-- The inside of a bracket with the given words. -/
def spaced (words : String) : List Char := ' ' :: (words.toList ++ [' '])

def slotPiece (words : String) : Piece := .inside .slot (spaced words)

def tagPiece (words : String) : Piece := .inside .tag (spaced words)

/-- A piece as it stands in a text. -/
def Piece.chars : Piece → List Char
  | text cs => cs
  | inside b cs => '\x7b' :: b.opening :: (cs ++ [b.closing, '\x7d'])

mutual

/-- The pieces of a part of a template. -/
def Node.pieces : Node → List Piece
  | .text t => [.text t.toList]
  | .print value => [slotPiece value.text]
  | .choice condition body otherwise =>
    tagPiece ("if " ++ condition.text) ::
      (nodePieces body ++ elsePieces otherwise ++ [tagPiece "endif"])
  | .each name items body otherwise =>
    tagPiece ("for " ++ name ++ " in " ++ items.text) ::
      (nodePieces body ++ elsePieces otherwise ++ [tagPiece "endfor"])

/-- The pieces of the part that stands for a condition that is not met. -/
def elsePieces : List Node → List Piece
  | [] => []
  | n :: ns => tagPiece "else" :: (n.pieces ++ nodePieces ns)

/-- The pieces of parts one after another. -/
def nodePieces : List Node → List Piece
  | [] => []
  | n :: ns => n.pieces ++ nodePieces ns

end

/-- The words that define a macro. -/
def Definition.head (d : Definition) : String :=
  "macro " ++ d.name ++ "(" ++ ", ".intercalate (d.parameters.map Parameter.written) ++ ")"

/-- The words that import macros. -/
def Import.head (i : Import) : String := "import \"" ++ i.template ++ "\" as " ++ i.space

/-- The pieces of a part that stands outside all others. -/
def Item.pieces : Item → List Piece
  | node n => n.pieces
  | define d => tagPiece d.head :: (nodePieces d.body ++ [tagPiece ("endmacro " ++ d.name)])
  | load i => [tagPiece i.head]

/-- The pieces of a template. -/
def writtenPieces (t : Template) : List Piece := t.items.flatMap Item.pieces

theorem toList_slot (words : String) : (slot words).toList = (slotPiece words).chars := by
  simp [slot, slotPiece, spaced, Piece.chars, Bracket.opening, Bracket.closing]

theorem toList_tag (words : String) : (tag words).toList = (tagPiece words).chars := by
  simp [tag, tagPiece, spaced, Piece.chars, Bracket.opening, Bracket.closing]

mutual

theorem toList_written (n : Node) : n.written.toList = n.pieces.flatMap Piece.chars := by
  cases n with
  | text t => simp [Node.written, Node.pieces, Piece.chars]
  | print value => simp [Node.written, Node.pieces, toList_slot]
  | choice condition body otherwise =>
      have hbody := toList_writtenNodes body
      have helse := toList_writtenElse otherwise
      simp [Node.written, Node.pieces, toList_tag, hbody, helse]
  | each name items body otherwise =>
      have hbody := toList_writtenNodes body
      have helse := toList_writtenElse otherwise
      simp [Node.written, Node.pieces, toList_tag, hbody, helse]

theorem toList_writtenElse (ns : List Node) :
    (writtenElse ns).toList = (elsePieces ns).flatMap Piece.chars := by
  cases ns with
  | nil => simp [writtenElse, elsePieces]
  | cons n ns =>
      have hnode := toList_written n
      have hnodes := toList_writtenNodes ns
      simp [writtenElse, elsePieces, toList_tag, hnode, hnodes]

theorem toList_writtenNodes (ns : List Node) :
    (writtenNodes ns).toList = (nodePieces ns).flatMap Piece.chars := by
  cases ns with
  | nil => simp [writtenNodes, nodePieces]
  | cons n ns =>
      have hnode := toList_written n
      have hnodes := toList_writtenNodes ns
      simp [writtenNodes, nodePieces, hnode, hnodes]

end

theorem toList_itemWritten (i : Item) : i.written.toList = i.pieces.flatMap Piece.chars := by
  cases i with
  | node n => exact toList_written n
  | define d =>
      have hhead : (tag ("macro " ++ d.name ++ "(" ++
          ", ".intercalate (d.parameters.map Parameter.written) ++ ")")).toList =
          (tagPiece d.head).chars := toList_tag d.head
      simp only [Item.written, Item.pieces, String.toList_append, hhead, toList_writtenNodes,
        toList_tag, List.flatMap_cons, List.flatMap_append, List.flatMap_nil, List.append_nil,
        List.append_assoc]
  | load i => simp [Item.written, Item.pieces, Import.head, toList_tag]

theorem intercalate_empty (pieces : List (List Char)) : [].intercalate pieces = pieces.flatten := by
  induction pieces with
  | nil => rfl
  | cons first pieces ih =>
      cases pieces with
      | nil => simp
      | cons second pieces =>
          rw [List.intercalate_cons_cons, List.append_nil, ih]
          rfl

theorem toList_templateWritten (t : Template) :
    t.written.toList = t.writtenPieces.flatMap Piece.chars := by
  unfold written
  rw [String.toList_intercalate, String.toList_empty, intercalate_empty, List.map_map,
    ← List.flatMap_def, writtenPieces, List.flatMap_assoc]
  congr 1
  funext i
  exact toList_itemWritten i

/-! ## Cutting -/

/-- Whether a bracket opens in the text or may open at its end. -/
def hasOpening : List Char → Bool
  | [] => false
  | [c] => c == '\x7b'
  | c :: d :: cs => (c == '\x7b' && (Bracket.ofOpening? d).isSome) || hasOpening (d :: cs)

theorem pieces_text {cs : List Char} (h : hasOpening cs = false) (done rest : List Char) :
    pieces (.text done) (cs ++ rest) = pieces (.text (cs.reverse ++ done)) rest := by
  fun_induction hasOpening cs generalizing done with
  | case1 => rfl
  | case2 c =>
      have hc : (c == '\x7b') = false := h
      cases rest with
      | nil => rfl
      | cons d rest =>
          change pieces (.text done) (c :: d :: rest) = _
          rw [pieces, hc]
          rfl
  | case3 c d cs ih =>
      rw [Bool.or_eq_false_iff] at h
      have hnone : (if c == '\x7b' then Bracket.ofOpening? d else none) = none := by
        split
        · next hc => simpa [hc] using h.1
        · rfl
      change pieces (.text done) (c :: d :: (cs ++ rest)) = _
      rw [pieces, hnone]
      change pieces (.text (c :: done)) ((d :: cs) ++ rest) = _
      rw [ih h.2, List.reverse_cons (a := c), List.append_assoc]
      rfl

theorem pieces_opening (b : Bracket) (done rest : List Char) :
    pieces (.text done) ('\x7b' :: b.opening :: rest) =
      (pieces (.inside b [] none) rest).map (.text done.reverse :: ·) := by
  cases b <;> rfl

theorem pieces_inside {b : Bracket} {cs : List Char} {quote : Option Char} (hclose : '\x7d' ∉ cs)
    (hquote : cs.foldl (quoteAfter b) quote = none) (done rest : List Char) :
    pieces (.inside b done quote) (cs ++ b.closing :: '\x7d' :: rest) =
      (pieces (.text []) rest).map (.inside b (done.reverse ++ cs) :: ·) := by
  induction cs generalizing done quote with
  | nil =>
      rw [List.foldl_nil] at hquote
      rw [hquote, List.nil_append, pieces, List.append_nil]
      simp
  | cons c cs ih =>
      have hc : '\x7d' ≠ c := fun heq => hclose (heq ▸ List.mem_cons_self)
      have hcs : '\x7d' ∉ cs := fun hmem => hclose (List.mem_cons_of_mem c hmem)
      have hnext : ∃ d next, cs ++ b.closing :: '\x7d' :: rest = d :: next ∧
          (quote.isNone && c == b.closing && d == '\x7d') = false := by
        cases cs with
        | nil =>
            refine ⟨_, _, rfl, ?_⟩
            cases b <;> simp [Bracket.closing, hc.symm]
        | cons d cs =>
            refine ⟨_, _, rfl, ?_⟩
            have hd : '\x7d' ≠ d := fun heq => hcs (heq ▸ List.mem_cons_self)
            simp [hd.symm]
      obtain ⟨d, next, heq, hstays⟩ := hnext
      rw [List.cons_append, heq, pieces, hstays, if_neg Bool.false_ne_true, ← heq,
        ih hcs hquote (c :: done), List.reverse_cons, List.append_assoc, List.singleton_append]

/-- The pieces that are cut out, with what was read of a text in front of them. -/
def cutPieces (done : List Char) : List Piece → List Piece
  | [] => [.text done.reverse]
  | .text cs :: ps => cutPieces (cs.reverse ++ done) ps
  | .inside b cs :: ps => .text done.reverse :: .inside b cs :: cutPieces [] ps

/-- The piece can be cut out of a text, and it takes no white space away. -/
def Piece.IsClean : Piece → Prop
  | text cs => cs ≠ [] ∧ hasOpening cs = false
  | inside b cs => '\x7d' ∉ cs ∧ cs.foldl (quoteAfter b) none = none ∧
      cs.head? ≠ some '-' ∧ cs.getLast? ≠ some '-'

theorem pieces_chars {ps : List Piece} (h : ∀ p ∈ ps, p.IsClean) (done : List Char) :
    pieces (.text done) (ps.flatMap Piece.chars) = some (cutPieces done ps) := by
  induction ps generalizing done with
  | nil => rfl
  | cons p ps ih =>
      have hp := h p List.mem_cons_self
      have ih := ih fun q hq => h q (List.mem_cons_of_mem p hq)
      rw [List.flatMap_cons]
      cases p with
      | text cs =>
          change pieces _ (cs ++ _) = _
          rw [pieces_text hp.2, ih, cutPieces]
      | inside b cs =>
          obtain ⟨hclose, hquote, -, -⟩ := hp
          change pieces _ ('\x7b' :: b.opening :: ((cs ++ [b.closing, '\x7d']) ++ _)) = _
          rw [pieces_opening, List.append_assoc]
          change (pieces _ (cs ++ b.closing :: '\x7d' :: ps.flatMap Piece.chars)).map _ = _
          rw [pieces_inside hclose hquote, ih]
          rfl

theorem bare_of_isClean {b : Bracket} {cs : List Char} (h : (Piece.inside b cs).IsClean) :
    (Piece.inside b cs).bare = .inside b cs := by
  obtain ⟨-, -, hhead, hlast⟩ := h
  simp [Piece.bare, hhead, hlast]

theorem trimPieces_cutPieces {ps : List Piece} (h : ∀ p ∈ ps, p.IsClean) (done : List Char) :
    trimPieces false (cutPieces done ps) = cutPieces done ps := by
  induction ps generalizing done with
  | nil => rfl
  | cons p ps ih =>
      have hp := h p List.mem_cons_self
      have ih := ih fun q hq => h q (List.mem_cons_of_mem p hq)
      cases p with
      | text cs => exact ih _
      | inside b cs =>
          have hbefore : (Piece.inside b cs).trimsBefore = false := by
            simpa [Piece.trimsBefore] using hp.2.2.1
          have hafter : (Piece.inside b cs).trimsAfter = false := by
            simpa [Piece.trimsAfter] using hp.2.2.2
          rw [cutPieces, trimPieces, trimPieces, hafter, ih, bare_of_isClean hp]
          · simp [hbefore]
          · simp

end TypedClient.Template
