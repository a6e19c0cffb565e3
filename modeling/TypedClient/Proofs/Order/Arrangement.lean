import Mathlib.Data.List.Induction
import TypedClient.Plan.Order
import TypedClient.Proofs.Kinds
import TypedClient.Proofs.Order.Counting

/-!
# Arranged and marked models

`arrange` rearranges models, and `markModels` writes positions and forward marks into them. The
loop of `arrange` emits the models in the order that is meant (`arrangeBy_eq`), so which circles it
is given makes no difference as long as they are right (`orderModelsBy_eq`). The statements hold for
any list, also one with a name twice: no model is lost (`arrange_perm`), what is written is nothing
but marks (`unmarked_markModels`), and a reference is marked as a forward one exactly when its name
stands at the holder's position or later (`forward_eq_isForwardAt` with `isForwardAt_iff`).
-/

namespace TypedClient.Plan

/-! ## Positions of names -/

theorem lastPosition?_append_singleton (names : List String) (n name : String) :
    lastPosition? (names ++ [n]) name =
      if n == name then some names.length else lastPosition? names name := by
  unfold lastPosition?
  rw [List.zipIdx_append, List.foldl_append]
  simp

/-- The last position of a name is a position of it. -/
theorem getElem?_of_lastPosition? {names : List String} {name : String} {i : Nat}
    (h : lastPosition? names name = some i) : names[i]? = some name := by
  induction names using List.reverseRec with
  | nil => simp [lastPosition?] at h
  | append_singleton names n ih =>
      rw [lastPosition?_append_singleton] at h
      split at h
      · next heq =>
          cases h
          simpa using heq
      · have hlt := (List.getElem?_eq_some_iff.1 (ih h)).1
        rw [List.getElem?_append_left hlt, ih h]

/-- The last position of a name is not before any other one. -/
theorem exists_lastPosition?_of_getElem? {names : List String} {name : String} {i : Nat}
    (h : names[i]? = some name) : ∃ j, lastPosition? names name = some j ∧ i ≤ j := by
  induction names using List.reverseRec with
  | nil => simp at h
  | append_singleton names n ih =>
      rw [lastPosition?_append_singleton]
      have hlt := (List.getElem?_eq_some_iff.1 h).1
      rw [List.length_append, List.length_singleton] at hlt
      split
      · exact ⟨names.length, rfl, by omega⟩
      · next hne =>
          by_cases hi : i < names.length
          · rw [List.getElem?_append_left hi] at h
            exact ih h
          · have hi : i = names.length := by omega
            subst hi
            rw [List.getElem?_append_right (Nat.le_refl _)] at h
            exact absurd (by simpa using h) hne

/-- A reference is a forward one if the name stands at the holder's position or later. -/
theorem isForwardAt_iff {names : List String} {position : Nat} {name : String} :
    isForwardAt names position name = true ↔ ∃ j, position ≤ j ∧ names[j]? = some name := by
  unfold isForwardAt
  constructor
  · split
    · next target htarget =>
        intro h
        exact ⟨target, of_decide_eq_true h, getElem?_of_lastPosition? htarget⟩
    · intro h
      cases h
  · rintro ⟨j, hle, hj⟩
    obtain ⟨target, htarget, hjt⟩ := exists_lastPosition?_of_getElem? hj
    rw [htarget]
    exact decide_eq_true (Nat.le_trans hle hjt)

/-- A name that is listed and not referred to forward stands before the holder. -/
theorem exists_lt_of_isForwardAt_eq_false {names : List String} {position : Nat} {name : String}
    (h : isForwardAt names position name = false) (hmem : name ∈ names) :
    ∃ j < position, names[j]? = some name := by
  obtain ⟨j, hj⟩ := List.mem_iff_getElem?.1 hmem
  by_cases hlt : j < position
  · exact ⟨j, hlt, hj⟩
  · rw [isForwardAt_iff.2 ⟨j, Nat.le_of_not_lt hlt, hj⟩] at h
    cases h

/-! ## Arrangement -/

/-- The table that `arrange` works with. -/
def reachOf (models : List Model) : Reach := Reach.ofGraph (successors models) models.length

/-- The positions of models in the order in which they are emitted. -/
def emission (models : List Model) : List Nat := (reachOf models).emit (List.range models.length)

theorem emission_perm (models : List Model) :
    (emission models).Perm (List.range models.length) := Reach.emit_perm _ _

theorem successors_of_length_le {models : List Model} {i : Nat} (h : models.length ≤ i) :
    successors models i = [] := by
  rw [successors, List.getElem?_eq_none h]

theorem lt_of_mem_successors {models : List Model} {i j : Nat} (h : j ∈ successors models i) :
    j < models.length := by
  unfold successors at h
  split at h
  · cases h
  · obtain ⟨name, -, hname⟩ := List.mem_filterMap.1 h
    have hlt := (List.getElem?_eq_some_iff.1 (getElem?_of_lastPosition? hname)).1
    simpa using hlt

/-- The loop emits every model at its place, whatever circles it is given that are right. -/
theorem arrangeBy_eq {condensation : (Nat → List Nat) → Nat → Condensed}
    (h : Condenses condensation) (models : List Model) :
    arrangeBy condensation models = (emission models).filterMap fun i => models[i]? := by
  have htable : (fun i => ((List.range models.length).map (successors models)).getD i []) =
      successors models := by
    funext i
    by_cases hi : i < models.length
    · simp [hi]
    · simp [hi, successors_of_length_le (Nat.le_of_not_lt hi)]
  have hnext : ∀ i, ∀ j ∈ successors models i, j < models.length :=
    fun _ _ => lt_of_mem_successors
  have hnodup : (emission models).Nodup := (emission_perm models).nodup_iff.2 List.nodup_range
  unfold arrangeBy
  simp only [htable]
  rw [run_start_eq hnext (h _ _ hnext), Option.map_some, Option.getD_some]
  change takeSlots (models.map some) (emission models) = _
  rw [takeSlots_eq hnodup]
  refine List.filterMap_congr fun i _ => ?_
  rw [List.getElem?_map]
  cases models[i]? <;> rfl

theorem orderModels_eq (models : List Model) : orderModels models = markModels (arrange models) :=
  rfl

theorem arrange_eq (models : List Model) :
    arrange models = (emission models).filterMap fun i => models[i]? :=
  arrangeBy_eq condenses_condense models

/-- Which circles are found makes no difference, as long as they are right. -/
theorem orderModelsBy_eq {condensation : (Nat → List Nat) → Nat → Condensed}
    (h : Condenses condensation) : orderModelsBy condensation = orderModels := by
  funext models
  rw [orderModels, orderModelsBy, orderModelsBy, arrangeBy_eq h, ← arrange_eq, arrange]

theorem filterMap_getElem?_range {α : Type} (xs : List α) :
    ((List.range xs.length).filterMap fun i => xs[i]?) = xs := by
  induction xs using List.reverseRec with
  | nil => rfl
  | append_singleton xs x ih =>
      rw [List.length_append, List.length_singleton, List.range_succ, List.filterMap_append]
      have hinit : ((List.range xs.length).filterMap fun i => (xs ++ [x])[i]?) =
          (List.range xs.length).filterMap fun i => xs[i]? := by
        apply List.filterMap_congr
        intro i hi
        exact List.getElem?_append_left (List.mem_range.1 hi)
      rw [hinit, ih]
      simp

/-- No model is lost and none comes twice. -/
theorem arrange_perm (models : List Model) : (arrange models).Perm models := by
  have h := (emission_perm models).filterMap fun i => models[i]?
  rw [filterMap_getElem?_range, ← arrange_eq] at h
  exact h

theorem map_name_arrange (models : List Model) :
    (arrange models).map Model.name =
      (emission models).filterMap fun i => (models.map Model.name)[i]? := by
  rw [arrange_eq, List.map_filterMap]
  simp

/-! ## Marks -/

/-- A model without its position and its forward marks. -/
def Model.unmarked (m : Model) : Model :=
  { m.mapReferences (fun name _ => (name, false)) with position := 0 }

/-- A model as it is marked at a position among models of the given names. -/
def Model.markedAt (names : List String) (position : Nat) (m : Model) : Model :=
  { m.mapReferences (fun name _ => (name, isForwardAt names position name)) with
    position := position }

theorem getElem?_markModels (models : List Model) (i : Nat) :
    (markModels models)[i]? = models[i]?.map (Model.markedAt (models.map Model.name) i) := by
  unfold markModels
  rw [List.getElem?_map, List.getElem?_zipIdx, Option.map_map]
  simp only [Nat.zero_add]
  rfl

theorem Model.unmarked_markedAt (names : List String) (position : Nat) (m : Model) :
    (m.markedAt names position).unmarked = m.unmarked := by
  simp [Model.unmarked, Model.markedAt, Model.mapReferences, Kind.mapModel_mapModel]

theorem Model.references_markedAt (names : List String) (position : Nat) (m : Model) :
    (m.markedAt names position).references = m.references := by
  simp [Model.markedAt, Model.mapReferences, Model.references, List.filterMap_map,
    Kind.model?_mapModel]

/-- Marking writes nothing but marks. -/
theorem unmarked_markModels (models : List Model) :
    (markModels models).map Model.unmarked = models.map Model.unmarked := by
  apply List.ext_getElem?
  intro i
  rw [List.getElem?_map, getElem?_markModels, List.getElem?_map, Option.map_map]
  congr 1
  funext m
  exact Model.unmarked_markedAt _ i m

theorem map_name_markModels (models : List Model) :
    (markModels models).map Model.name = models.map Model.name := by
  apply List.ext_getElem?
  intro i
  rw [List.getElem?_map, getElem?_markModels, List.getElem?_map, Option.map_map]
  rfl

theorem map_name_orderModels (models : List Model) :
    (orderModels models).map Model.name = (arrange models).map Model.name :=
  map_name_markModels (arrange models)

/-- Ordered models have the names of the given ones. -/
theorem mem_map_name_orderModels {models : List Model} {name : String} :
    name ∈ (orderModels models).map Model.name ↔ name ∈ models.map Model.name := by
  rw [map_name_orderModels]
  exact ((arrange_perm models).map Model.name).mem_iff

/-- An ordered model is one of the given models, marked at its position. -/
theorem exists_of_getElem?_orderModels {models : List Model} {i : Nat} {m : Model}
    (h : (orderModels models)[i]? = some m) :
    ∃ given ∈ models, m = given.markedAt ((orderModels models).map Model.name) i := by
  rw [orderModels_eq, getElem?_markModels] at h
  obtain ⟨given, hgiven, rfl⟩ := Option.map_eq_some_iff.1 h
  refine ⟨given, (arrange_perm models).subset (List.mem_of_getElem? hgiven), ?_⟩
  rw [map_name_orderModels]

/-- The fields of an ordered model are those of the given one, with their marks. -/
theorem exists_field_of_markedAt {names : List String} {position : Nat} {m : Model} {f : Field}
    (hf : f ∈ (m.markedAt names position).fields) :
    ∃ given ∈ m.fields,
      f.kind = given.kind.mapModel fun name _ => (name, isForwardAt names position name) := by
  obtain ⟨given, hgiven, rfl⟩ := List.mem_map.1 hf
  exact ⟨given, hgiven, rfl⟩

/-- The marks of an ordered model say which names stand at its position or later. -/
theorem forward_eq_isForwardAt {models : List Model} {i : Nat} {m : Model}
    (h : (orderModels models)[i]? = some m) {f : Field} (hf : f ∈ m.fields) {name : String}
    {forward : Bool} (hpart : Kind.Part (.model name forward) f.kind) :
    forward = isForwardAt ((orderModels models).map Model.name) i name := by
  obtain ⟨given, -, rfl⟩ := exists_of_getElem?_orderModels h
  obtain ⟨field, -, hkind⟩ := exists_field_of_markedAt hf
  rw [hkind] at hpart
  obtain ⟨name', forward', -, heq⟩ := Kind.part_model_mapModel hpart
  cases heq
  rfl

end TypedClient.Plan
