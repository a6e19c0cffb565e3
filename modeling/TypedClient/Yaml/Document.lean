import TypedClient.Yaml.Node
import TypedClient.Yaml.Scalar

/-!
# Values of YAML documents

A document is read as a JSON value.  Keys are scalars and kept as their text, and of several
entries with one key the last value counts, at the place of the first.  Collections nest at most
128 levels deep, and there is a limit to how often aliases are followed, so that a short text does
not unfold to a huge value.
-/

namespace TypedClient.Yaml

/-! ## Anchors -/

mutual

/-- The nodes with an anchor, in the order in which they begin. -/
def Node.anchored : Node → List (Nat × Node)
  | .reference _ => []
  | .scalar p isPlain text => marked p (.scalar p isPlain text)
  | .sequence p items => marked p (.sequence p items) ++ anchoredItems items
  | .mapping p entries => marked p (.mapping p entries) ++ anchoredEntries entries

/-- The nodes with an anchor among items. -/
def anchoredItems : List Node → List (Nat × Node)
  | [] => []
  | x :: xs => x.anchored ++ anchoredItems xs

/-- The nodes with an anchor among entries. -/
def anchoredEntries : List (Node × Node) → List (Nat × Node)
  | [] => []
  | (k, v) :: es => k.anchored ++ v.anchored ++ anchoredEntries es

/-- The node with its anchor, if it has one. -/
def marked (p : Properties) (n : Node) : List (Nat × Node) :=
  match p.anchor with
  | some a => [(a, n)]
  | none => []

end

mutual

/-- The size of a node: one for a leaf, and two more than its parts for a collection. -/
def Node.size : Node → Nat
  | .reference _ => 1
  | .scalar _ _ _ => 1
  | .sequence _ items => 2 + sizeItems items
  | .mapping _ entries => 2 + sizeEntries entries

/-- The size of items. -/
def sizeItems : List Node → Nat
  | [] => 0
  | x :: xs => x.size + sizeItems xs

/-- The size of entries. -/
def sizeEntries : List (Node × Node) → Nat
  | [] => 0
  | (k, v) :: es => k.size + v.size + sizeEntries es

end

/-- A document whose aliases can be followed. -/
structure Document where
  /-- The last node of every anchor in front. -/
  targets : List (Nat × Node)
  /-- How often aliases may be followed. -/
  limit : Nat

/-- The document of a root node. -/
def Document.ofRoot (root : Node) : Document := ⟨root.anchored.reverse, root.size * 100⟩

/-! ## Values -/

/-- Reading counts how often an alias was followed. -/
abbrev Unfolding := StateT Nat Option

/-- Levels of collections that are read. -/
def maxNesting : Nat := 128

/-- Follows an alias; any other node stands for itself. -/
def Document.follow (d : Document) : Node → Unfolding Node
  | .reference a => fun followed =>
    if d.limit ≤ followed then none else (d.targets.lookup a).map fun n => (n, followed + 1)
  | n => pure n

/-- The text of a key. -/
def Document.keyOf (d : Document) (n : Node) : Unfolding String := do
  match ← d.follow n with
  | .scalar _ _ text => pure text
  | _ => failure

/-- The value of a scalar. -/
def scalarValue? (p : Properties) (isPlain : Bool) (text : String) : Option Json :=
  match p.tag with
  | some tag => taggedValue? tag text
  | none => if isPlain then plainValue? text else some (.string text)

/-- Whether a collection has a tag of the document's own, which has no meaning here. -/
def hasOwnTag (p : Properties) : Bool :=
  ((p.tag.map fun t => t.toList.head? == some '!')).getD false

/-- The value of a node with at most so many levels of collections. -/
def Document.valueOf (d : Document) : (levels : Nat) → Node → Unfolding Json
  | levels, n => do
    match levels, ← d.follow n with
    | _, .scalar p isPlain text => StateT.lift (scalarValue? p isPlain text)
    | levels + 1, .sequence p items =>
      if hasOwnTag p then failure
      else return .array (← items.mapM (d.valueOf levels))
    | levels + 1, .mapping p entries =>
      if hasOwnTag p then failure
      else
        let pairs ← entries.mapM fun (k, v) => do
          let key ← d.keyOf k
          let value ← d.valueOf levels v
          return (key, value)
        return .object (Json.members pairs)
    | _, _ => failure

/-- The value that a text stands for; `none` if it is no YAML or has no JSON value. -/
def load? (text : String) : Option Json :=
  (spots? text).bind fun spots =>
    (tokens? spots).bind fun tokens =>
      (document? tokens).bind fun root =>
        match root with
        | none => some .null
        | some root => (((Document.ofRoot root).valueOf maxNesting root).run 0).map Prod.fst

end TypedClient.Yaml
