import TypedClient.Proofs.Template.Pieces
import TypedClient.Proofs.Text.Lines

/-!
# Written templates are read back

A template is readable if the words in its brackets are read as what they were written for
(`Reads`). From its pieces it is put together part by part: whatever is open, the pieces of a node
add this node (`takeAll_pieces`), so a readable template is read back from its written form
(`ofText?_written`). Words that are names with points between them are read as the place that they
name (`isReference_variable`, `isReference_member`).
-/

namespace TypedClient.Template

/-! ## Assembling -/

/-- Takes pieces in, one after another. -/
def Assembly.takeAll (a : Assembly) (ps : List Piece) : Option Assembly :=
  ps.foldlM Assembly.take a

theorem takeAll_cons (a : Assembly) (p : Piece) (ps : List Piece) :
    a.takeAll (p :: ps) = (a.take p).bind fun b => b.takeAll ps := rfl

theorem takeAll_append (a : Assembly) (ps qs : List Piece) :
    a.takeAll (ps ++ qs) = (a.takeAll ps).bind fun b => b.takeAll qs :=
  List.foldlM_append

/-- No two texts stand next to each other. -/
def separated : List Piece → Bool
  | .text _ :: .text _ :: _ => false
  | _ :: ps => separated ps
  | [] => true

theorem separated_inside (b : Bracket) (cs : List Char) (ps : List Piece) :
    separated (.inside b cs :: ps) = separated ps := by
  rw [separated]
  simp

/-- Cutting brings in nothing but empty texts. -/
theorem takeAll_cutPieces (ps : List Piece) (a : Assembly) :
    (separated ps = true → a.takeAll (cutPieces [] ps) = a.takeAll ps) ∧
    ∀ cs, separated (.text cs :: ps) = true →
      a.takeAll (cutPieces cs.reverse ps) = a.takeAll (.text cs :: ps) := by
  induction ps generalizing a with
  | nil =>
      refine ⟨fun _ => rfl, fun cs _ => ?_⟩
      rw [cutPieces, List.reverse_reverse]
  | cons p ps ih =>
      cases p with
      | text ds =>
          refine ⟨fun h => ?_, fun cs h => by cases h⟩
          rw [cutPieces, List.append_nil]
          exact (ih a).2 ds h
      | inside b ds =>
          have hrest : ∀ cs, separated ps = true →
              a.takeAll (.text cs :: .inside b ds :: cutPieces [] ps) =
                a.takeAll (.text cs :: .inside b ds :: ps) := by
            intro cs h
            simp only [takeAll_cons, fun c : Assembly => (ih c).1 h]
          constructor
          · intro h
            rw [separated_inside] at h
            rw [cutPieces, List.reverse_nil, hrest [] h]
            rfl
          · intro cs h
            rw [separated, separated_inside] at h
            · rw [cutPieces, List.reverse_reverse, hrest cs h]
            · simp

/-! ## Readable templates -/

/-- The words stay inside their bracket and are read as `x`. -/
structure Reads {α : Type} (read : List Word → Option α) (words : String) (x : α) : Prop where
  not_mem_close : '\x7d' ∉ words.toList
  unquoted : words.toList.foldl (quoteAfter .slot) none = none
  read_eq : (wordsOf (spaced words)).bind read = some x

mutual

/-- The part is written such that it can be read again. -/
def Node.Readable : Node → Prop
  | .text t => t ≠ "" ∧ hasOpening t.toList = false
  | .print value => Reads readExpr value.text value
  | .choice condition body otherwise =>
    Reads readTag ("if " ++ condition.text) (.choose condition) ∧ ReadableNodes body ∧
      ReadableNodes otherwise
  | .each name items body otherwise =>
    Reads readTag ("for " ++ name ++ " in " ++ items.text) (.each name items) ∧
      ReadableNodes body ∧ ReadableNodes otherwise

/-- Each of the parts can be read again. -/
def ReadableNodes : List Node → Prop
  | [] => True
  | n :: ns => n.Readable ∧ ReadableNodes ns

end

/-- The part can be read again. -/
def Item.Readable : Item → Prop
  | node n => n.Readable
  | define d => Reads readTag d.head (.define d.name d.parameters) ∧ ReadableNodes d.body ∧
      Reads readTag ("endmacro " ++ d.name) .endDefine
  | load i => Reads readTag i.head (.load i)

/-- The parts of the template can be read again, and no two texts become one. -/
structure Readable (t : Template) : Prop where
  items : ∀ i ∈ t.items, i.Readable
  separated : separated t.writtenPieces = true

section Readable

variable {α : Type} {read : List Word → Option α} {words : String} {x : α}

theorem foldl_quoteAfter (b : Bracket) (hb : b ≠ .comment) (cs : List Char) (quote : Option Char) :
    cs.foldl (quoteAfter b) quote = cs.foldl (quoteAfter .slot) quote := by
  cases b with
  | comment => exact absurd rfl hb
  | slot => rfl
  | tag =>
      have hsame : quoteAfter .tag = quoteAfter .slot := by
        funext quote c
        cases quote <;> rfl
      rw [hsame]

theorem Reads.isClean (h : Reads read words x) {b : Bracket} (hb : b ≠ .comment) :
    (Piece.inside b (spaced words)).IsClean := by
  refine ⟨?_, ?_, ?_, ?_⟩
  · simpa [spaced] using h.not_mem_close
  · rw [foldl_quoteAfter b hb, spaced, List.foldl_cons, List.foldl_append]
    change (([' '] : List Char).foldl (quoteAfter .slot)
      (words.toList.foldl (quoteAfter .slot) none)) = none
    rw [h.unquoted]
    rfl
  · simp [spaced]
  · rw [spaced, ← List.cons_append, List.getLast?_concat]
    decide

theorem take_slotPiece {e : Expr} (h : Reads readExpr words e) (a : Assembly) :
    a.take (slotPiece words) = some (a.add (.print e)) := by
  change ((wordsOf (spaced words)).bind readExpr).map _ = _
  rw [h.read_eq]
  rfl

theorem take_tagPiece {tag : Tag} (h : Reads readTag words tag) (a : Assembly) :
    a.take (tagPiece words) = a.follow tag := by
  change ((wordsOf (spaced words)).bind readTag).bind _ = _
  rw [h.read_eq]
  rfl

theorem reads_else : Reads readTag "else" .otherwise := by
  refine ⟨by decide, by decide, rfl⟩

theorem reads_endif : Reads readTag "endif" .endChoose := by
  refine ⟨by decide, by decide, rfl⟩

theorem reads_endfor : Reads readTag "endfor" .endEach := by
  refine ⟨by decide, by decide, rfl⟩

mutual

theorem isClean_of_mem_pieces {n : Node} (h : n.Readable) : ∀ p ∈ n.pieces, p.IsClean := by
  cases n with
  | text t =>
      obtain ⟨hne, hopening⟩ := h
      rw [Node.pieces, List.forall_mem_singleton]
      exact ⟨by simpa using hne, hopening⟩
  | print value =>
      rw [Node.pieces, List.forall_mem_singleton]
      exact Reads.isClean h (by decide)
  | choice condition body otherwise =>
      obtain ⟨hhead, hbody, helse⟩ := h
      rw [Node.pieces, List.forall_mem_cons, List.forall_mem_append, List.forall_mem_append,
        List.forall_mem_singleton]
      exact ⟨hhead.isClean (by decide), ⟨isClean_of_mem_nodePieces hbody,
        isClean_of_mem_elsePieces helse⟩, reads_endif.isClean (by decide)⟩
  | each name items body otherwise =>
      obtain ⟨hhead, hbody, helse⟩ := h
      rw [Node.pieces, List.forall_mem_cons, List.forall_mem_append, List.forall_mem_append,
        List.forall_mem_singleton]
      exact ⟨hhead.isClean (by decide), ⟨isClean_of_mem_nodePieces hbody,
        isClean_of_mem_elsePieces helse⟩, reads_endfor.isClean (by decide)⟩

theorem isClean_of_mem_elsePieces {ns : List Node} (h : ReadableNodes ns) :
    ∀ p ∈ elsePieces ns, p.IsClean := by
  cases ns with
  | nil =>
      rw [elsePieces]
      exact fun p hp => absurd hp List.not_mem_nil
  | cons n ns =>
      obtain ⟨hn, hns⟩ := h
      rw [elsePieces, List.forall_mem_cons, List.forall_mem_append]
      exact ⟨reads_else.isClean (by decide), isClean_of_mem_pieces hn,
        isClean_of_mem_nodePieces hns⟩

theorem isClean_of_mem_nodePieces {ns : List Node} (h : ReadableNodes ns) :
    ∀ p ∈ nodePieces ns, p.IsClean := by
  cases ns with
  | nil =>
      rw [nodePieces]
      exact fun p hp => absurd hp List.not_mem_nil
  | cons n ns =>
      obtain ⟨hn, hns⟩ := h
      rw [nodePieces, List.forall_mem_append]
      exact ⟨isClean_of_mem_pieces hn, isClean_of_mem_nodePieces hns⟩

end

theorem isClean_of_mem_itemPieces {i : Item} (h : i.Readable) : ∀ p ∈ i.pieces, p.IsClean := by
  cases i with
  | node n => exact isClean_of_mem_pieces h
  | define d =>
      obtain ⟨hhead, hbody, hend⟩ := h
      rw [Item.pieces, List.forall_mem_cons, List.forall_mem_append, List.forall_mem_singleton]
      exact ⟨hhead.isClean (by decide), isClean_of_mem_nodePieces hbody,
        hend.isClean (by decide)⟩
  | load i =>
      rw [Item.pieces, List.forall_mem_singleton]
      exact Reads.isClean h (by decide)

/-- In an open part, nodes are added backwards. -/
theorem foldl_add (ns : List Node) (o : Opening) (done : List Node)
    (stack : List (Opening × List Node)) (items : List Item) :
    ns.foldl Assembly.add ⟨(o, done) :: stack, items⟩ =
      ⟨(o, ns.reverse ++ done) :: stack, items⟩ := by
  induction ns generalizing done with
  | nil => rfl
  | cons n ns ih =>
      rw [List.foldl_cons, Assembly.add, ih, List.reverse_cons, List.append_assoc]
      rfl

/-- A part with two branches is put together from what its branches give, whatever opens and closes
it. -/
theorem takeAll_branches {o : Opening} {oElse : List Node → Opening} {close : Tag} {last : Piece}
    {made : List Node → List Node → Node} {body otherwise : List Node}
    (hbody : ∀ a : Assembly, a.takeAll (nodePieces body) = some (body.foldl Assembly.add a))
    (helse : otherwise ≠ [] → ∀ a : Assembly, a.takeAll (elsePieces otherwise) =
      (a.follow .otherwise).bind fun b => some (otherwise.foldl Assembly.add b))
    (hlast : ∀ a : Assembly, a.take last = a.follow close)
    (hotherwise : ∀ done stack items, Assembly.follow ⟨(o, done) :: stack, items⟩ .otherwise =
      some ⟨(oElse done.reverse, []) :: stack, items⟩)
    (hclose : ∀ done stack items, Assembly.follow ⟨(o, done) :: stack, items⟩ close =
      some (Assembly.add ⟨stack, items⟩ (made done.reverse [])))
    (hcloseElse : ∀ first done stack items,
      Assembly.follow ⟨(oElse first, done) :: stack, items⟩ close =
        some (Assembly.add ⟨stack, items⟩ (made first done.reverse)))
    (a : Assembly) : (a.enter o).takeAll (nodePieces body ++ elsePieces otherwise ++ [last]) =
      some (a.add (made body otherwise)) := by
  obtain ⟨stack, items⟩ := a
  rw [List.append_assoc, takeAll_append, hbody, Assembly.enter, foldl_add, List.append_nil,
    Option.bind_some, takeAll_append]
  by_cases hnil : otherwise = []
  · rw [hnil, elsePieces]
    change (Assembly.takeAll ⟨(o, body.reverse) :: stack, items⟩ [last]) = _
    rw [takeAll_cons, hlast, hclose, List.reverse_reverse]
    rfl
  · rw [helse hnil, hotherwise, Option.bind_some, foldl_add, List.append_nil, Option.bind_some,
      takeAll_cons, hlast, hcloseElse, List.reverse_reverse, List.reverse_reverse]
    rfl

mutual

/-- The pieces of a node give this node. -/
theorem takeAll_pieces {n : Node} (h : n.Readable) (a : Assembly) :
    a.takeAll n.pieces = some (a.add n) := by
  cases n with
  | text t =>
      obtain ⟨hne, -⟩ := h
      rw [Node.pieces, takeAll_cons]
      cases hcs : t.toList with
      | nil => exact absurd (by simpa using hcs) hne
      | cons c cs =>
          rw [← String.ofList_toList (s := t), hcs]
          rfl
  | print value =>
      rw [Node.pieces, takeAll_cons, take_slotPiece h]
      rfl
  | choice condition body otherwise =>
      obtain ⟨hhead, hbody, helse⟩ := h
      rw [Node.pieces, takeAll_cons, take_tagPiece hhead]
      exact takeAll_branches (takeAll_nodePieces hbody) (takeAll_elsePieces helse)
        (take_tagPiece reads_endif) (fun _ _ _ => rfl) (fun _ _ _ => rfl) (fun _ _ _ _ => rfl) a
  | each name items body otherwise =>
      obtain ⟨hhead, hbody, helse⟩ := h
      rw [Node.pieces, takeAll_cons, take_tagPiece hhead]
      exact takeAll_branches (takeAll_nodePieces hbody) (takeAll_elsePieces helse)
        (take_tagPiece reads_endfor) (fun _ _ _ => rfl) (fun _ _ _ => rfl) (fun _ _ _ _ => rfl) a

theorem takeAll_elsePieces {ns : List Node} (h : ReadableNodes ns) (hne : ns ≠ [])
    (a : Assembly) : a.takeAll (elsePieces ns) =
      (a.follow .otherwise).bind fun b => some (ns.foldl Assembly.add b) := by
  cases ns with
  | nil => exact absurd rfl hne
  | cons n ns =>
      obtain ⟨hn, hns⟩ := h
      rw [elsePieces, takeAll_cons, take_tagPiece reads_else]
      congr 1
      funext b
      rw [takeAll_append, takeAll_pieces hn, Option.bind_some, takeAll_nodePieces hns]
      rfl

theorem takeAll_nodePieces {ns : List Node} (h : ReadableNodes ns) (a : Assembly) :
    a.takeAll (nodePieces ns) = some (ns.foldl Assembly.add a) := by
  cases ns with
  | nil =>
      rw [nodePieces]
      rfl
  | cons n ns =>
      obtain ⟨hn, hns⟩ := h
      rw [nodePieces, takeAll_append, takeAll_pieces hn, Option.bind_some,
        takeAll_nodePieces hns]
      rfl

end

/-- The pieces of an item give this item. -/
theorem takeAll_itemPieces {i : Item} (h : i.Readable) (items : List Item) :
    Assembly.takeAll ⟨[], items⟩ i.pieces = some ⟨[], i :: items⟩ := by
  cases i with
  | node n => exact takeAll_pieces h _
  | define d =>
      obtain ⟨hhead, hbody, hend⟩ := h
      rw [Item.pieces, takeAll_cons, take_tagPiece hhead]
      change (Assembly.takeAll ⟨[(.define d.name d.parameters, [])], items⟩ _) = _
      rw [takeAll_append, takeAll_nodePieces hbody, foldl_add, Option.bind_some, List.append_nil,
        takeAll_cons, take_tagPiece hend]
      change some (Assembly.mk []
        (.define ⟨d.name, d.parameters, d.body.reverse.reverse⟩ :: items)) = _
      rw [List.reverse_reverse]
  | load i =>
      rw [Item.pieces, takeAll_cons, take_tagPiece h]
      rfl

theorem takeAll_items {is : List Item} (h : ∀ i ∈ is, i.Readable) (items : List Item) :
    Assembly.takeAll ⟨[], items⟩ (is.flatMap Item.pieces) = some ⟨[], is.reverse ++ items⟩ := by
  induction is generalizing items with
  | nil => rfl
  | cons i is ih =>
      rw [List.flatMap_cons, takeAll_append, takeAll_itemPieces (h i List.mem_cons_self),
        Option.bind_some, ih fun j hj => h j (List.mem_cons_of_mem i hj), List.reverse_cons,
        List.append_assoc]
      rfl

/-- A readable template is read back from its written form. -/
theorem ofText?_written {t : Template} (h : t.Readable) : ofText? t.written = some t := by
  have hclean : ∀ p ∈ t.writtenPieces, p.IsClean := by
    intro p hp
    obtain ⟨i, hi, hp⟩ := List.mem_flatMap.1 hp
    exact isClean_of_mem_itemPieces (h.items i hi) p hp
  have hcut : piecesOf t.written.toList = some (cutPieces [] t.writtenPieces) := by
    rw [toList_templateWritten]
    exact pieces_chars hclean []
  have htake : (cutPieces [] t.writtenPieces).foldlM Assembly.take {} =
      some ⟨[], t.items.reverse⟩ := by
    have hitems := takeAll_items h.items []
    rw [List.append_nil] at hitems
    exact ((takeAll_cutPieces _ _).1 h.separated).trans hitems
  rw [ofText?, hcut]
  change (((trimPieces false (cutPieces [] t.writtenPieces)).foldlM Assembly.take {}).bind
    Assembly.finish) = _
  rw [trimPieces_cutPieces hclean, htake]
  change some (Template.mk t.items.reverse.reverse) = _
  rw [List.reverse_reverse]

/-! ## Words with spaces between them -/

/-- The text is one plain word. -/
structure IsPlainWord (cs : List Char) : Prop where
  ne_nil : cs ≠ []
  isPlainChar : ∀ c ∈ cs, isPlainChar c = true

instance : DecidablePred IsPlainWord := fun cs =>
  decidable_of_iff (cs ≠ [] ∧ cs.all isPlainChar = true)
    ⟨fun h => ⟨h.1, List.all_eq_true.1 h.2⟩, fun h => ⟨h.1, List.all_eq_true.2 h.2⟩⟩

theorem words_plain {cs : List Char} (h : ∀ c ∈ cs, isPlainChar c = true) (done rest : List Char) :
    Template.words (.plain done) (cs ++ ' ' :: rest) =
      (Template.words .gap rest).map (.plain (done.reverse ++ cs) :: ·) := by
  induction cs generalizing done with
  | nil =>
      rw [List.append_nil]
      rfl
  | cons c cs ih =>
      have hc := h c List.mem_cons_self
      have hstep : Template.words (.plain done) (c :: (cs ++ ' ' :: rest)) =
          Template.words (.plain (c :: done)) (cs ++ ' ' :: rest) := by
        simp only [Template.words, hc, if_true]
      rw [List.cons_append, hstep, ih fun d hd => h d (List.mem_cons_of_mem c hd),
        List.reverse_cons, List.append_assoc]
      rfl

theorem words_plainWord {cs : List Char} (h : IsPlainWord cs) (rest : List Char) :
    Template.words .gap (cs ++ ' ' :: rest) =
      (Template.words .gap rest).map (.plain cs :: ·) := by
  obtain ⟨c, cs, rfl⟩ := List.exists_cons_of_ne_nil h.ne_nil
  have hc := h.isPlainChar c List.mem_cons_self
  have hstep : Template.words .gap (c :: (cs ++ ' ' :: rest)) =
      Template.words (.plain [c]) (cs ++ ' ' :: rest) := by
    simp only [Template.words, hc, if_true]
  rw [List.cons_append, hstep, words_plain fun d hd => h.isPlainChar d (List.mem_cons_of_mem c hd)]
  rfl

/-- Words with a space behind each of them. -/
def sentence (ws : List (List Char)) : List Char := ws.flatMap (· ++ [' '])

theorem wordsOf_sentence {ws : List (List Char)} (h : ∀ w ∈ ws, IsPlainWord w) :
    wordsOf (' ' :: sentence ws) = some (ws.map .plain) := by
  have hwords : Template.words .gap (sentence ws) = some (ws.map .plain) := by
    induction ws with
    | nil => rfl
    | cons w ws ih =>
        rw [sentence, List.flatMap_cons, List.append_assoc, List.singleton_append,
          words_plainWord (h w List.mem_cons_self)]
        rw [sentence] at ih
        rw [ih fun v hv => h v (List.mem_cons_of_mem w hv)]
        rfl
  rw [wordsOf]
  change (Template.words .gap (sentence ws)).map _ = _
  rw [hwords]
  rfl

theorem not_mem_sentence {ws : List (List Char)} (h : ∀ w ∈ ws, IsPlainWord w) {c : Char}
    (hplain : isPlainChar c = false) (hspace : c ≠ ' ') : c ∉ sentence ws := by
  intro hmem
  obtain ⟨w, hw, hmem⟩ := List.mem_flatMap.1 hmem
  rcases List.mem_append.1 hmem with hmem | hmem
  · have hc := (h w hw).isPlainChar c hmem
    rw [hplain] at hc
    cases hc
  · exact hspace (List.mem_singleton.1 hmem)

theorem foldl_quoteAfter_of_forall {cs : List Char} (h : ∀ c ∈ cs, isQuote c = false) :
    cs.foldl (quoteAfter .slot) none = none := by
  induction cs with
  | nil => rfl
  | cons c cs ih =>
      have hstep : quoteAfter .slot none c = none := by
        simp [quoteAfter, h c List.mem_cons_self]
      rw [List.foldl_cons, hstep]
      exact ih fun d hd => h d (List.mem_cons_of_mem c hd)

/-- Plain words are read one by one. -/
theorem reads_of_plain (ws : List (List Char)) (h : ∀ w ∈ ws, IsPlainWord w)
    (hwords : words.toList ++ [' '] = sentence ws) (hread : read (ws.map .plain) = some x) :
    Reads read words x := by
  have hmem : ∀ c ∈ words.toList, c ∈ sentence ws := fun c hc =>
    hwords ▸ List.mem_append_left _ hc
  refine ⟨fun hclose => ?_, foldl_quoteAfter_of_forall fun c hc => ?_, ?_⟩
  · exact not_mem_sentence h (by decide) (by decide) (hmem _ hclose)
  · by_contra hquote
    have hquote : isQuote c = true := by simpa using hquote
    have hplain : isPlainChar c = false := by
      simp only [isQuote, Bool.or_eq_true, beq_iff_eq] at hquote
      rcases hquote with (rfl | rfl) | rfl <;> decide
    have hspace : c ≠ ' ' := by
      rintro rfl
      revert hquote
      decide
    exact not_mem_sentence h hplain hspace (hmem c hc)
  · rw [spaced, hwords, wordsOf_sentence h]
    exact hread

end Readable

/-! ## Places -/

/-- The written form of a place is read as this place. -/
structure IsReference (segments : List String) : Prop where
  isPlainWord : IsPlainWord (".".intercalate segments).toList
  path_eq : path? (".".intercalate segments).toList = some segments
  literal_eq : literal? (.plain (".".intercalate segments).toList) = none

/-- Words that are read as truth values. -/
def truthWords : List (List Char) := ["true".toList, "True".toList, "false".toList, "False".toList]

/-- Whether the word is read as a variable. -/
def isVariable (cs : List Char) : Bool := isName cs && !truthWords.contains cs

section References

variable {name key : String} {cs ds : List Char} {segments : List String}

theorem isPlainWord_of_isName (h : isName cs = true) : IsPlainWord cs := by
  cases cs with
  | nil => cases h
  | cons c cs =>
      refine ⟨List.cons_ne_nil c cs, fun d hd => ?_⟩
      simp only [isName, Bool.and_eq_true, List.all_eq_true] at h
      have hd := h.2 d hd
      rw [isPlainChar, hd, Bool.true_or]

theorem splitAt_of_isName (h : isName cs = true) : Text.splitAt (· == '.') cs = [cs] := by
  refine Text.splitAt_of_all_not fun c hc => ?_
  cases cs with
  | nil => cases hc
  | cons d ds =>
      simp only [isName, Bool.and_eq_true, List.all_eq_true] at h
      have hname := h.2 c hc
      rw [beq_eq_false_iff_ne]
      rintro rfl
      revert hname
      decide

theorem head_of_isName (h : isName cs = true) (ds : List Char) :
    ((cs ++ ds).head?.map Char.isDigit).getD false = false := by
  cases cs with
  | nil => cases h
  | cons c cs =>
      simp only [isName, Bool.and_eq_true, Bool.or_eq_true] at h
      change c.isDigit = false
      rcases h.1 with halpha | hunderscore
      · have hdisjoint : ¬(c.isAlpha = true ∧ c.isDigit = true) := by
          unfold Char.isAlpha Char.isUpper Char.isLower Char.isDigit
          simp only [Bool.or_eq_true, Bool.and_eq_true, decide_eq_true_eq, ge_iff_le,
            UInt32.le_iff_toNat_le]
          simp
          omega
        simpa [halpha] using hdisjoint
      · rw [eq_of_beq hunderscore]
        decide

theorem literal?_of_not_mem (hwords : cs ∉ truthWords)
    (hhead : (cs.head?.map Char.isDigit).getD false = false) : literal? (.plain cs) = none := by
  have hne : ∀ word : String, word.toList ∈ truthWords → String.ofList cs ≠ word := by
    rintro word hword rfl
    rw [String.toList_ofList] at hword
    exact hwords hword
  have htrue := hne "true" (by decide)
  have hTrue := hne "True" (by decide)
  have hfalse := hne "false" (by decide)
  have hFalse := hne "False" (by decide)
  simp [literal?, htrue, hTrue, hfalse, hFalse, hhead]

theorem isReference_variable (hname : name = String.ofList cs) (h : isVariable cs = true) :
    IsReference [name] := by
  rw [isVariable, Bool.and_eq_true] at h
  have htext : (".".intercalate [name]).toList = cs := by simp [hname]
  refine ⟨?_, ?_, ?_⟩ <;> rw [htext]
  · exact isPlainWord_of_isName h.1
  · simp [path?, splitAt_of_isName h.1, h.1, hname]
  · have hhead := head_of_isName h.1 []
    rw [List.append_nil] at hhead
    exact literal?_of_not_mem (by simpa using h.2) hhead

theorem isReference_member (hname : name = String.ofList cs) (hkey : key = String.ofList ds)
    (h : isName cs = true ∧ isName ds = true) : IsReference [name, key] := by
  obtain ⟨h, h'⟩ := h
  have htext : (".".intercalate [name, key]).toList = cs ++ '.' :: ds := by simp [hname, hkey]
  have hsplit : Text.splitAt (· == '.') (cs ++ '.' :: ds) = [cs, ds] := by
    rw [Text.splitAt_append_cons rfl, splitAt_of_isName h, splitAt_of_isName h']
    rfl
  refine ⟨?_, ?_, ?_⟩ <;> rw [htext]
  · refine ⟨by simp, fun c hc => ?_⟩
    rcases List.mem_append.1 hc with hc | hc
    · exact (isPlainWord_of_isName h).isPlainChar c hc
    · rcases List.mem_cons.1 hc with rfl | hc
      · decide
      · exact (isPlainWord_of_isName h').isPlainChar c hc
  · simp [path?, hsplit, h, h', hname, hkey]
  · have hpoint : ∀ word ∈ truthWords, '.' ∉ word := by decide
    exact literal?_of_not_mem (fun hmem => hpoint _ hmem (by simp)) (head_of_isName h _)

/-! ## Parts that depend on places -/

/-- What a place is written as. -/
def placeWord (segments : List String) : List Char := (".".intercalate segments).toList

theorem readValue_place (h : IsReference segments) :
    readValue [.plain (placeWord segments)] = some (.path segments) := by
  have hsimple : simple? (.plain (placeWord segments)) = some (.path segments) := by
    rw [simple?, placeWord, h.literal_eq, h.path_eq]
    rfl
  simp [readValue, hsimple, readFilters]

theorem readExpr_place (h : IsReference segments) :
    readExpr [.plain (placeWord segments)] = some (.path segments) := by
  simp [readExpr, readValue_place h]

theorem readable_place (h : IsReference segments) : (Node.print (.path segments)).Readable := by
  refine reads_of_plain [placeWord segments] ?_ ?_ (readExpr_place h)
  · exact List.forall_mem_singleton.2 h.isPlainWord
  · simp [sentence, placeWord, Expr.text]

theorem readable_if (h : IsReference segments) {body otherwise : List Node}
    (hbody : ReadableNodes body) (helse : ReadableNodes otherwise) :
    (Node.choice (.path segments) body otherwise).Readable := by
  refine ⟨reads_of_plain ["if".toList, placeWord segments] ?_ ?_ ?_, hbody, helse⟩
  · exact List.forall_mem_cons.2 ⟨by decide, List.forall_mem_singleton.2 h.isPlainWord⟩
  · simp [sentence, placeWord, Expr.text]
  · change (readExpr [.plain (placeWord segments)]).map Tag.choose = _
    rw [readExpr_place h]
    rfl

theorem readable_ifNot (h : IsReference segments) {body otherwise : List Node}
    (hbody : ReadableNodes body) (helse : ReadableNodes otherwise) :
    (Node.choice (.negated (.path segments)) body otherwise).Readable := by
  refine ⟨reads_of_plain ["if".toList, "not".toList, placeWord segments] ?_ ?_ ?_, hbody, helse⟩
  · exact List.forall_mem_cons.2 ⟨by decide, List.forall_mem_cons.2 ⟨by decide,
      List.forall_mem_singleton.2 h.isPlainWord⟩⟩
  · simp [sentence, placeWord, Expr.text]
  · change ((readValue [.plain (placeWord segments)]).map Expr.negated).map Tag.choose = _
    rw [readValue_place h]
    rfl

theorem readable_for (hname : name = String.ofList cs) (hcs : isName cs = true)
    (h : IsReference segments) {body otherwise : List Node} (hbody : ReadableNodes body)
    (helse : ReadableNodes otherwise) :
    (Node.each name (.path segments) body otherwise).Readable := by
  refine ⟨reads_of_plain ["for".toList, cs, "in".toList, placeWord segments] ?_ ?_ ?_, hbody,
    helse⟩
  · exact List.forall_mem_cons.2 ⟨by decide, List.forall_mem_cons.2 ⟨isPlainWord_of_isName hcs,
      List.forall_mem_cons.2 ⟨by decide, List.forall_mem_singleton.2 h.isPlainWord⟩⟩⟩
  · simp [sentence, placeWord, Expr.text, hname]
  · change readEach [.plain cs, keyword "in", .plain (placeWord segments)] = _
    simp [readEach, name?, hcs, hname, readValue_place h]

end References

/-! ## Texts -/

section Texts

variable {cs ds : List Char} {a b t : String}

theorem hasOpening_append (hcs : hasOpening cs = false) (hds : hasOpening ds = false) :
    hasOpening (cs ++ ds) = false := by
  fun_induction hasOpening cs with
  | case1 => exact hds
  | case2 c =>
      have hc : (c == '\x7b') = false := hcs
      cases ds with
      | nil => exact hcs
      | cons d ds =>
          change ((c == '\x7b' && (Bracket.ofOpening? d).isSome) || hasOpening (d :: ds)) = false
          rw [hc, hds]
          rfl
  | case3 c d cs ih =>
      rw [Bool.or_eq_false_iff] at hcs
      change ((c == '\x7b' && (Bracket.ofOpening? d).isSome) ||
        hasOpening ((d :: cs) ++ ds)) = false
      rw [hcs.1, ih hcs.2]
      rfl

theorem readable_text (ht : t = String.ofList cs) (h : cs ≠ [] ∧ hasOpening cs = false) :
    (Node.text t).Readable := by
  subst ht
  obtain ⟨hne, h⟩ := h
  refine ⟨fun heq => hne ?_, ?_⟩
  · simpa using congrArg String.toList heq
  · rwa [String.toList_ofList]

theorem readable_text_append (ha : (Node.text a).Readable) (hb : (Node.text b).Readable) :
    (Node.text (a ++ b)).Readable := by
  obtain ⟨hne, ha⟩ := ha
  obtain ⟨-, hb⟩ := hb
  refine ⟨by simp [hne], ?_⟩
  rw [String.toList_append]
  exact hasOpening_append ha hb

end Texts

end TypedClient.Template
