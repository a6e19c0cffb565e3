import TypedClient.Plan.Model

/-!
# Order of models

Models are emitted behind those that they refer to.  Models that refer to each other in a circle
stand side by side in the order in which they were given, and where the references leave a choice,
the model that was given first comes first.  A reference to a model that is emitted at the holder
or later is marked as a forward one.
-/

namespace TypedClient.Plan

/-! ## Reachability -/

/-- The nodes that are found from `found` in a number of rounds.  Each round adds the successors of
the nodes that the round before has found. -/
def grow (next : Nat → List Nat) : (rounds : Nat) → (found latest : List Nat) → List Nat
  | 0, found, _ => found
  | rounds + 1, found, latest =>
    match ((latest.flatMap next).filter fun j => !found.contains j).eraseDups with
    | [] => found
    | new => grow next rounds (found ++ new) new

/-- The nodes that are reached from a node in one step or more, in a graph with `size` nodes.
Every round but the last finds a node, so `size` rounds find them all. -/
def reachable (next : Nat → List Nat) (size i : Nat) : List Nat :=
  let first := (next i).eraseDups
  grow next size first first

/-- A graph on the first numbers, with the nodes that are reached from each. -/
structure Reach where
  reached : List (List Nat)

namespace Reach

/-- The reachability of a graph. -/
def ofGraph (next : Nat → List Nat) (size : Nat) : Reach :=
  ⟨(List.range size).map (reachable next size)⟩

/-- Whether `j` is reached from `i`. -/
def reaches (r : Reach) (i j : Nat) : Bool := (r.reached.getD i []).contains j

/-- Whether two nodes are the same or reach each other. -/
def sameCycle (r : Reach) (i j : Nat) : Bool := i == j || (r.reaches i j && r.reaches j i)

theorem sameCycle_self (r : Reach) (i : Nat) : r.sameCycle i i = true := by simp [sameCycle]

end Reach

/-! ## Circles -/

/-- A graph of circles.  An edge leads from the circle at one index to the circle at another. -/
structure Condensed where
  circles : List (List Nat)
  edges : List (Nat × Nat)

/-- The circles of a graph with `size` nodes, in the order of their first nodes, and the edges
between different ones. -/
def condense (next : Nat → List Nat) (size : Nat) : Condensed :=
  let r := Reach.ofGraph next size
  let nodes := List.range size
  let circles := (nodes.filter fun i => nodes.find? (r.sameCycle i) == some i).map fun i =>
    nodes.filter (r.sameCycle i)
  let circleOf := fun i => circles.findIdx fun circle => circle.contains i
  { circles
    edges := ((nodes.flatMap fun i => (next i).map fun j => (circleOf i, circleOf j)).filter
      fun edge => edge.1 != edge.2).eraseDups }

/-- The largest machine number, which stands for the first position of no nodes at all. -/
def noPosition : Nat := 18446744073709551615

/-- The first of the positions of nodes. -/
def firstPosition (members : List Nat) : Nat := members.min?.getD noPosition

/-- Puts an element into an ordered list, in front of what it comes before. -/
def insertBy {α : Type} (before : α → α → Bool) (x : α) : List α → List α
  | [] => [x]
  | y :: ys => if before x y then x :: y :: ys else y :: insertBy before x ys

def sortBy {α : Type} (before : α → α → Bool) (xs : List α) : List α :=
  xs.foldr (insertBy before) []

theorem length_insertBy {α : Type} (before : α → α → Bool) (x : α) (xs : List α) :
    (insertBy before x xs).length = xs.length + 1 := by
  induction xs with
  | nil => rfl
  | cons y ys ih =>
      rw [insertBy]
      split
      · rfl
      · rw [List.length_cons, ih, List.length_cons]

/-- Whether an entry of the queue is taken before another one.  An entry is the first position of a
circle with its index. -/
def takenBefore (x y : Nat × Nat) : Bool := x.1 < y.1 || (x.1 == y.1 && x.2 ≤ y.2)

/-- What is known while circles are emitted: for every circle, how many of its edges lead to circles
that are not emitted yet, and the queue of the circles that wait for none. -/
structure Waiting where
  counters : List Nat
  queue : List (Nat × Nat)

/-- The edges that are still to be counted. -/
def edgesLeft (counters : List Nat) : Nat := counters.foldr (· + ·) 0

/-- A bound for the circles that are still to be emitted: each of them is in the queue or gets there
with an edge. -/
def Waiting.rounds (w : Waiting) : Nat := edgesLeft w.counters + w.queue.length

theorem edgesLeft_set {counters : List Nat} {a left : Nat} (h : counters[a]? = some (left + 1)) :
    edgesLeft (counters.set a left) + 1 = edgesLeft counters := by
  unfold edgesLeft
  induction counters generalizing a with
  | nil => simp at h
  | cons counter counters ih =>
      cases a with
      | zero =>
          rw [List.getElem?_cons_zero, Option.some.injEq] at h
          rw [List.set_cons_zero, List.foldr_cons, List.foldr_cons, h]
          omega
      | succ a =>
          rw [List.getElem?_cons_succ] at h
          have hleft := ih h
          rw [List.set_cons_succ, List.foldr_cons, List.foldr_cons]
          omega

namespace Condensed

/-- The nodes of the circle at an index. -/
def circle (c : Condensed) (a : Nat) : List Nat := c.circles.getD a []

/-- The number of edges that lead out of a circle. -/
def outgoing (c : Condensed) (a : Nat) : Nat := c.edges.countP fun edge => edge.1 == a

/-- The circles from which an edge leads into a circle, once for every such edge. -/
def dependents (c : Condensed) (a : Nat) : List Nat :=
  (c.edges.filter fun edge => edge.2 == a).map Prod.fst

/-- The entry of a circle in the queue. -/
def entry (c : Condensed) (a : Nat) : Nat × Nat := (firstPosition (c.circle a), a)

/-- Nothing is emitted yet, and the circles without edges are in the queue. -/
def start (c : Condensed) : Waiting where
  counters := (List.range c.circles.length).map c.outgoing
  queue := sortBy takenBefore
    (((List.range c.circles.length).filter fun a => c.outgoing a == 0).map c.entry)

/-- Counts one edge of a circle as done.  With the last one the circle gets into the queue.  The
program stops if no edge is left to be counted. -/
def countDown (c : Condensed) (w : Waiting) (a : Nat) : Option Waiting :=
  match w.counters[a]? with
  | none | some 0 => none
  | some (left + 1) =>
    some
      { counters := w.counters.set a left
        queue := if left = 0 then insertBy takenBefore (c.entry a) w.queue else w.queue }

/-- An entry of the queue is paid for with an edge. -/
theorem countDown_le {c : Condensed} {w w' : Waiting} {a : Nat} (h : c.countDown w a = some w') :
    w'.rounds ≤ w.rounds := by
  unfold countDown at h
  split at h
  · cases h
  · cases h
  · next left hleft =>
      cases h
      have hedges := edgesLeft_set hleft
      dsimp only [Waiting.rounds]
      split
      · rw [length_insertBy]
        omega
      · omega

theorem foldlM_countDown_le {c : Condensed} {counted : List Nat} {w w' : Waiting}
    (h : counted.foldlM c.countDown w = some w') : w'.rounds ≤ w.rounds := by
  induction counted generalizing w with
  | nil =>
      cases h
      exact Nat.le_refl _
  | cons a counted ih =>
      rw [List.foldlM_cons] at h
      obtain ⟨next, hnext, hrest⟩ := Option.bind_eq_some_iff.1 h
      exact Nat.le_trans (ih hrest) (countDown_le hnext)

/-- Emits the nodes of the first circle of the queue in their order, counts the edges that lead into
it as done, and goes on until the queue is empty. -/
def run (c : Condensed) (w : Waiting) : Option (List Nat) :=
  match _hqueue : w.queue with
  | [] => some []
  | (_, a) :: rest =>
    match _hdone : (c.dependents a).foldlM c.countDown { w with queue := rest } with
    | none => none
    | some w' => (c.run w').map fun sequence => sortBy (· ≤ ·) (c.circle a) ++ sequence
termination_by w.rounds
decreasing_by
  have hle := foldlM_countDown_le _hdone
  dsimp only [Waiting.rounds] at hle ⊢
  rw [_hqueue, List.length_cons]
  omega

end Condensed

/-! ## Models -/

/-- The position of the last entry of a name. -/
def lastPosition? (names : List String) (name : String) : Option Nat :=
  names.zipIdx.foldl (fun found (n, i) => if n == name then some i else found) none

/-- The positions of the models that a model refers to. -/
def successors (models : List Model) (i : Nat) : List Nat :=
  match models[i]? with
  | none => []
  | some m => m.references.filterMap (lastPosition? (models.map Model.name))

/-- Takes what stands at the given positions.  A slot gives its content once. -/
def takeSlots {α : Type} (slots : List (Option α)) : List Nat → List α
  | [] => []
  | i :: sequence =>
    match slots[i]? with
    | some (some x) => x :: takeSlots (slots.set i none) sequence
    | some none | none => takeSlots slots sequence

/-- The models in the order in which they are emitted, with the circles that `condensation`
finds. -/
def arrangeBy (condensation : (Nat → List Nat) → Nat → Condensed) (models : List Model) :
    List Model :=
  let table := (List.range models.length).map (successors models)
  let c := condensation (fun i => table.getD i []) models.length
  ((c.run c.start).map (takeSlots (models.map some))).getD []

/-- The models in the order in which they are emitted, not yet marked. -/
def arrange (models : List Model) : List Model := arrangeBy condense models

/-- Whether a reference of the model at `position` is a forward one.  References to models that are
not listed never are. -/
def isForwardAt (names : List String) (position : Nat) (name : String) : Bool :=
  match lastPosition? names name with
  | some target => position ≤ target
  | none => false

/-- Writes positions and forward marks into models that are in order. -/
def markModels (models : List Model) : List Model :=
  let names := models.map Model.name
  models.zipIdx.map fun (m, position) =>
    { m.mapReferences (fun name _ => (name, isForwardAt names position name)) with
      position := position }

/-- Brings models into order, with the circles that `condensation` finds. -/
def orderModelsBy (condensation : (Nat → List Nat) → Nat → Condensed) (models : List Model) :
    List Model :=
  markModels (arrangeBy condensation models)

/-- Brings models into order. -/
def orderModels (models : List Model) : List Model := orderModelsBy condense models

end TypedClient.Plan
