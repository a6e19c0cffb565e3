import Mathlib.Tactic.Common
import TypedClient.Proofs.Text.Lines
import TypedClient.Template.Library

/-!
# Layout of rendered templates

Which outer lines a rendered template has is read off its parts one after another: each part is
scanned from where the one in front of it has left the current line (`Lays`). There is one rule for
each kind of part. A text or a slot either ends no outer line (`LaysNode.of_scan`), or it begins
one, adds to it or ends it (`LaysNode.begins`, `LaysNode.grows`, `LaysNode.ends`); a condition, a
loop and a macro lay what their bodies lay (`LaysNode.choice`, `LaysNode.each`, `LaysNode.call`).
-/

namespace TypedClient.Template

open Text

/-! ## Texts of parts -/

section Rendering

variable {invoke : Invoke} {s : Scope}

theorem renderNode_choice {e : Expr} {v : Json} (hv : evaluate invoke s e = .ok v)
    (body otherwise : List Node) :
    renderNode invoke s (.choice e body otherwise) =
      if isTrue v then renderNodes invoke s body else renderNodes invoke s otherwise := by
  have hmeets : meets invoke s e = .ok (isTrue v) := by rw [meets, hv]
  rw [renderNode, hmeets]
  cases isTrue v <;> rfl

/-- The text of a loop is that of its body for one item after another. -/
theorem renderNode_each {α : Type} {name : String} {xs : List α} {item : α → Json}
    {text : α → List Char} {e : Expr} {body : List Node}
    (hitems : evaluate invoke s e = .ok (.array (xs.map item)))
    (h : ∀ x ∈ xs, renderNodes invoke (s.inLoop name (item x)) body = .ok (text x)) :
    renderNode invoke s (.each name e body []) = .ok (xs.flatMap text) := by
  have hvalues : evaluateItems invoke s e = .ok (xs.map item) := by
    rw [evaluateItems, hitems]
    rfl
  have htexts : (xs.map item).mapM (fun v => renderNodes invoke (s.inLoop name v) body) =
      .ok (xs.map text) := by
    clear hitems hvalues
    induction xs with
    | nil => rfl
    | cons x xs ih =>
        rw [List.forall_mem_cons] at h
        rw [List.map_cons, List.mapM_cons, h.1, ih h.2]
        rfl
  rw [renderNode, hvalues]
  cases xs with
  | nil => exact renderNodes_nil invoke s
  | cons x xs => exact congrArg (Except.map List.flatten) htexts

/-- The text of a call is that of the body of its macro. -/
theorem renderNode_call {l : Library} {depth : Nat} {space name file : String} {d : Definition}
    {arguments : List (String × Expr)} {values frame : List (String × Json)} {cs : List Char}
    (hd : l.definition s space name = .ok (file, d))
    (hvalues : evaluateArguments (l.invokeAt (depth + 1)) s arguments = .ok values)
    (hframe : Library.bind s d values = .ok frame)
    (hbody : renderNodes (l.invokeAt depth)
      ⟨[frame], s.values, file, ": error while rendering macro `" ++ space ++ "::" ++ name ++ "`"⟩
      d.body = .ok cs) :
    renderNode (l.invokeAt (depth + 1)) s (.print (.call space name arguments)) = .ok cs := by
  have hinvoke : l.invokeAt (depth + 1) s ⟨space, name, values⟩ = .ok cs := by
    simp only [Library.invokeAt, hd, hframe]
    exact hbody
  have hvalue : evaluate (l.invokeAt (depth + 1)) s (.call space name arguments) =
      .ok (.string (String.ofList cs)) := by
    simp only [evaluate, hvalues, hinvoke]
  rw [renderNode, hvalue]
  exact congrArg Except.ok String.toList_ofList

end Rendering

/-! ## Outer lines of parts -/

/-- The parts render, and a scan of their text from one position finds these outer lines and ends at
the other. -/
def Lays (invoke : Invoke) (s : Scope) (nodes : List Node) (a : Position) (found : List String)
    (b : Position) : Prop :=
  ∃ cs, renderNodes invoke s nodes = .ok cs ∧ scan a cs = (found.map String.toList, b)

/-- The same for one part. -/
def LaysNode (invoke : Invoke) (s : Scope) (n : Node) (a : Position) (found : List String)
    (b : Position) : Prop :=
  ∃ cs, renderNode invoke s n = .ok cs ∧ scan a cs = (found.map String.toList, b)

section Sequences

variable {invoke : Invoke} {s : Scope} {n : Node} {ns : List Node} {a b c : Position}
  {found rest : List String}

theorem Lays.nil : Lays invoke s [] a [] a := ⟨[], renderNodes_nil invoke s, rfl⟩

theorem Lays.append (hn : LaysNode invoke s n a found b) (hns : Lays invoke s ns b rest c) :
    Lays invoke s (n :: ns) a (found ++ rest) c := by
  obtain ⟨cs, hcs, hscan⟩ := hn
  obtain ⟨ds, hds, hscan'⟩ := hns
  refine ⟨cs ++ ds, renderNodes_cons hcs hds, ?_⟩
  rw [scan_append, hscan, hscan', List.map_append]

/-- A part that ends no outer line. -/
theorem Lays.quiet (hn : LaysNode invoke s n a [] b) (hns : Lays invoke s ns b rest c) :
    Lays invoke s (n :: ns) a rest c := Lays.append hn hns

/-- A part behind which no outer line ends. -/
theorem Lays.append_quiet (hn : LaysNode invoke s n a found b) (hns : Lays invoke s ns b [] c) :
    Lays invoke s (n :: ns) a found c := by
  rw [← List.append_nil found]
  exact Lays.append hn hns

/-- A part that ends one outer line. -/
theorem Lays.line {l : String} (hn : LaysNode invoke s n a [l] b)
    (hns : Lays invoke s ns b rest c) : Lays invoke s (n :: ns) a (l :: rest) c :=
  Lays.append hn hns

end Sequences

section Parts

variable {invoke : Invoke} {s : Scope} {a b : Position} {found : List String}

/-! ## Texts and slots -/

section Texts

variable {n : Node} {t u : String}

theorem LaysNode.of_scan (hn : renderNode invoke s n = .ok t.toList)
    (h : scan a t.toList = (found.map String.toList, b)) : LaysNode invoke s n a found b :=
  ⟨_, hn, h⟩

/-- Inside an indented line, a text without line breaks changes nothing. -/
theorem LaysNode.inner (hn : renderNode invoke s n = .ok t.toList) (h : OnOneLine t.toList) :
    LaysNode invoke s n .inner [] .inner := .of_scan hn (scan_inner h)

theorem LaysNode.begins (hn : renderNode invoke s n = .ok t.toList) (h : OnOneLine t.toList)
    (houter : isOuter t.toList = true) : LaysNode invoke s n .fresh [] (.outer t.toList) := by
  refine .of_scan hn ?_
  cases hcs : t.toList with
  | nil =>
      rw [hcs] at houter
      cases houter
  | cons c cs =>
      rw [hcs] at h houter
      refine scan_fresh ?_ h
      rintro rfl
      simp [isOuter] at houter

theorem LaysNode.grows (hn : renderNode invoke s n = .ok t.toList) (h : OnOneLine t.toList) :
    LaysNode invoke s n (.outer u.toList) [] (.outer (u ++ t).toList) := by
  rw [String.toList_append]
  exact .of_scan hn (scan_outer h u.toList)

theorem LaysNode.ends (hn : renderNode invoke s n = .ok (t ++ "\n").toList)
    (h : OnOneLine t.toList) (houter : isOuter u.toList = true) :
    LaysNode invoke s n (.outer u.toList) [u ++ t] .fresh := by
  refine ⟨_, hn, ?_⟩
  have hline : Position.line? (.outer (u.toList ++ t.toList)) = [u.toList ++ t.toList] :=
    if_pos (isOuter_append houter _)
  have hbreak : "\n".toList = ['\n'] := by decide
  rw [String.toList_append, scan_append, scan_outer h, List.map_singleton, String.toList_append,
    ← hline, hbreak]
  exact congrArg (·, Position.fresh) (List.append_nil _)

theorem LaysNode.breaks (houter : isOuter u.toList = true) :
    LaysNode invoke s (.text "\n") (.outer u.toList) [u] .fresh := by
  have hends := LaysNode.ends (renderNode_text invoke s "\n") (t := "") (by decide) houter
  rwa [String.append_empty] at hends

/-- A text, given by its characters. -/
theorem LaysNode.text {cs : List Char} (ht : t = String.ofList cs)
    (h : scan a cs = (found.map String.toList, b)) : LaysNode invoke s (.text t) a found b := by
  subst ht
  exact ⟨cs, by rw [renderNode_text, String.toList_ofList], h⟩

section Appended

variable {c : Position} {rest : List String}

theorem LaysNode.text_append (ht : LaysNode invoke s (.text t) a found b)
    (hu : LaysNode invoke s (.text u) b rest c) :
    LaysNode invoke s (.text (t ++ u)) a (found ++ rest) c := by
  obtain ⟨cs, hcs, hscan⟩ := ht
  obtain ⟨ds, hds, hscan'⟩ := hu
  rw [renderNode_text] at hcs hds
  refine ⟨cs ++ ds, ?_, ?_⟩
  · rw [renderNode_text, String.toList_append, Except.ok.inj hcs, Except.ok.inj hds]
  · rw [scan_append, hscan, hscan', List.map_append]

/-- Only the first of two texts ends outer lines. -/
theorem LaysNode.text_append_quiet (ht : LaysNode invoke s (.text t) a found b)
    (hu : LaysNode invoke s (.text u) b [] c) :
    LaysNode invoke s (.text (t ++ u)) a found c := by
  rw [← List.append_nil found]
  exact ht.text_append hu

/-- Only the second of two texts ends outer lines. -/
theorem LaysNode.text_quiet_append (ht : LaysNode invoke s (.text t) a [] b)
    (hu : LaysNode invoke s (.text u) b rest c) :
    LaysNode invoke s (.text (t ++ u)) a rest c := ht.text_append hu

end Appended

end Texts

/-! ## Conditions and loops -/

section Choices

variable {e : Expr} {body otherwise : List Node}

theorem LaysNode.choice {v : Json} (hv : evaluate invoke s e = .ok v)
    (hbody : isTrue v = true → Lays invoke s body a found b)
    (hotherwise : isTrue v = false → Lays invoke s otherwise a found b) :
    LaysNode invoke s (.choice e body otherwise) a found b := by
  unfold LaysNode
  rw [renderNode_choice hv]
  cases htrue : isTrue v with
  | true => exact hbody htrue
  | false => exact hotherwise htrue

section Loops

variable {α : Type} {name : String} {xs : List α} {item : α → Json} {lines : α → List String}

theorem exists_renderedItems
    (h : ∀ x ∈ xs, Lays invoke (s.inLoop name (item x)) body a (lines x) a) :
    ∃ css, (xs.map item).mapM (fun v => renderNodes invoke (s.inLoop name v) body) = .ok css ∧
      scan a css.flatten = ((xs.flatMap lines).map String.toList, a) := by
  induction xs with
  | nil => exact ⟨[], rfl, rfl⟩
  | cons x xs ih =>
      rw [List.forall_mem_cons] at h
      obtain ⟨⟨cs, hcs, hscan⟩, hrest⟩ := h
      obtain ⟨css, hcss, hscan'⟩ := ih hrest
      refine ⟨cs :: css, ?_, ?_⟩
      · rw [List.map_cons, List.mapM_cons, hcs, hcss]
        rfl
      · rw [List.flatten_cons, scan_append, hscan, hscan', List.flatMap_cons, List.map_append]

/-- The body is laid once for each item, and each time it ends where it has begun. -/
theorem LaysNode.each (hitems : evaluate invoke s e = .ok (.array (xs.map item)))
    (h : ∀ x ∈ xs, Lays invoke (s.inLoop name (item x)) body a (lines x) a) :
    LaysNode invoke s (.each name e body []) a (xs.flatMap lines) a := by
  have hvalues : evaluateItems invoke s e = .ok (xs.map item) := by
    rw [evaluateItems, hitems]
    rfl
  obtain ⟨css, hcss, hscan⟩ := exists_renderedItems h
  unfold LaysNode
  rw [renderNode, hvalues]
  cases xs with
  | nil => exact Lays.nil
  | cons x xs =>
      exact ⟨css.flatten, congrArg (Except.map List.flatten) hcss, hscan⟩

/-- A loop whose body ends no outer line. -/
theorem LaysNode.each_quiet (hitems : evaluate invoke s e = .ok (.array (xs.map item)))
    (h : ∀ x ∈ xs, Lays invoke (s.inLoop name (item x)) body a [] a) :
    LaysNode invoke s (.each name e body []) a [] a := by
  have hnone : xs.flatMap (fun _ => ([] : List String)) = [] :=
    List.flatMap_eq_nil_iff.2 fun _ _ => rfl
  rw [← hnone]
  exact .each hitems h

end Loops

end Choices

/-! ## Macros -/

/-- A call lays what the body of its macro lays. -/
theorem LaysNode.call {l : Library} {depth : Nat} {space name file : String} {d : Definition}
    {arguments : List (String × Expr)} {values frame : List (String × Json)}
    (hd : l.definition s space name = .ok (file, d))
    (hvalues : evaluateArguments (l.invokeAt (depth + 1)) s arguments = .ok values)
    (hframe : Library.bind s d values = .ok frame)
    (hbody : ∀ place, Lays (l.invokeAt depth) ⟨[frame], s.values, file, place⟩ d.body a found b) :
    LaysNode (l.invokeAt (depth + 1)) s (.print (.call space name arguments)) a found b := by
  obtain ⟨cs, hcs, hscan⟩ :=
    hbody (": error while rendering macro `" ++ space ++ "::" ++ name ++ "`")
  exact ⟨cs, renderNode_call hd hvalues hframe hcs, hscan⟩

end Parts

/-- A template lays what its parts lay. -/
theorem Library.render_eq_ok {l : Library} {name : String} {t : Template}
    {values : List (String × Json)} {found : List String} {b : Position}
    (ht : l.template? name = some t)
    (h : Lays (l.invokeAt maxCalls) ⟨[], values, name, ""⟩ t.nodes .fresh found b) :
    ∃ cs, l.render name values = .ok cs ∧ scan .fresh cs = (found.map String.toList, b) := by
  obtain ⟨cs, hcs, hscan⟩ := h
  refine ⟨cs, ?_, hscan⟩
  simp only [Library.render, ht, hcs]

end TypedClient.Template
