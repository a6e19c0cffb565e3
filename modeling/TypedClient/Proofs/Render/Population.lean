import TypedClient.Proofs.Plan.FieldNames
import TypedClient.Render.Classes

/-!
# Models populated from messages

A model class takes the value of a field under the name that the declaration gives it in messages,
or else under its identifier; and where some declaration gives a name, a field may take its value
under its identifier as well (`populate`). If a message holds nothing but the names that the fields
have in messages, a field takes the value under its own name, or none, with one exception: its
identifier may be the name of a later field. That field then has an identifier with a counter
(`pairwise_namesPrecede_of_build`), and its value stands in where the first field has none
(`readsByWireNames_of_build`).
-/

namespace TypedClient

/-! ## Identifiers and names in messages -/

namespace Plan

open Client (Settings)
open Lexical (IsFieldName)
open OpenApi (Document)

/-- The identifier of a field and its name in messages. -/
def Field.names (f : Field) : String × String := (f.name, f.wireName)

/-- What the names of a field have to do with those of a later one of the same model. An identifier
is no name that an earlier field has in messages, and if it is that of a later field, the identifier
of the latter has a counter. -/
def NamesPrecede (x y : String × String) : Prop :=
  y.1 ≠ x.2 ∧ (x.1 = y.2 → ∃ k, 2 ≤ k ∧ y.1 = Lexical.numbered x.1 k)

theorem fieldName_of_isFieldName {name : String} (h : IsFieldName name) :
    Naming.fieldName name = name :=
  Lexical.sanitizeField_of_isFieldName h

theorem pairwise_namesPrecede_of_map_name {taken : List String} {fields : List Field}
    (h : fields.map Field.name =
      Lexical.uniqueAll taken (fields.map fun f => Naming.fieldName f.wireName)) :
    (fields.map Field.names).Pairwise NamesPrecede := by
  induction fields generalizing taken with
  | nil => exact List.Pairwise.nil
  | cons f rest ih =>
      have hvalid : ∀ g ∈ f :: rest, IsFieldName g.name := by
        intro g hg
        have hmem := List.mem_map_of_mem (f := Field.name) hg
        rw [h] at hmem
        exact Lexical.isFieldName_of_mem_uniqueAll
          (List.forall_mem_map.2 fun f _ => isFieldName_fieldName f.wireName) _ hmem
      rw [List.map_cons, List.map_cons, Lexical.uniqueAll_cons, List.cons.injEq] at h
      obtain ⟨hname, hrest⟩ := h
      rw [← hname] at hrest
      rw [List.map_cons, List.pairwise_cons]
      refine ⟨List.forall_mem_map.2 fun g hg => ⟨?_, ?_⟩, ih hrest⟩
      · -- otherwise `f` would have got the identifier of `g` first
        intro (heq : g.name = f.wireName)
        have hbase : Naming.fieldName f.wireName = g.name := by
          rw [← heq, fieldName_of_isFieldName (hvalid g (List.mem_cons_of_mem f hg))]
        have hnot := (Lexical.nodup_uniqueAll_and_not_mem _ _).2 g.name
          (hrest ▸ List.mem_map_of_mem hg)
        rw [List.mem_cons, not_or] at hnot
        rw [hbase, Lexical.unique_of_not_mem hnot.2] at hname
        exact hnot.1 hname.symm
      · intro (heq : f.name = g.wireName)
        have hforall := Lexical.forall₂_uniqueAll (f.name :: taken)
          (rest.map fun f => Naming.fieldName f.wireName)
        rw [← hrest, List.forall₂_map_left_iff, List.forall₂_map_right_iff,
          List.forall₂_same] at hforall
        obtain ⟨others, hothers, hunique⟩ := hforall g hg
        have hbase : Naming.fieldName g.wireName = f.name := by
          rw [← heq, fieldName_of_isFieldName (hvalid f List.mem_cons_self)]
        rw [hbase] at hunique
        obtain ⟨k, hk, hnumbered⟩ :=
          Lexical.exists_unique_eq_numbered (hothers List.mem_cons_self)
        exact ⟨k, hk, hunique.trans hnumbered⟩

theorem Model.Placed.map_names {split : List String} {variant m : Model}
    (h : Model.Placed split variant m) :
    m.fields.map Field.names = variant.fields.map Field.names :=
  map_eq_map_of_forall₂ h.fields fun _ _ hf => congrArg₂ Prod.mk hf.name_eq hf.wireName_eq

theorem pairwise_namesPrecede_of_build {d : Document} {s : Settings} {p : TypedClient.Plan}
    (h : build d s = .ok p) : ∀ m ∈ p.models, (m.fields.map Field.names).Pairwise NamesPrecede := by
  obtain ⟨base, made, n, hdrafted, hmodels, -, -, -⟩ := build_eq_ok h
  intro m hm
  rw [hmodels] at hm
  obtain ⟨drafted, hmem, variant, hvariant, hplaced⟩ := exists_placed_of_mem hm
  have hpairwise := pairwise_namesPrecede_of_map_name (hdrafted.namedInOrder hmem)
  rw [hplaced.map_names]
  exact hpairwise.sublist ((fields_sublist_of_mem_variants hvariant).map Field.names)

/-- Where an identifier is the name of another field in messages, that field comes later and has an
identifier with a counter. -/
theorem eq_or_lt_of_name_eq_wireName {m : Model}
    (h : (m.fields.map Field.names).Pairwise NamesPrecede) {i j : Nat} {f g : Field}
    (hi : m.fields[i]? = some f) (hj : m.fields[j]? = some g) (hname : f.name = g.wireName) :
    i = j ∨ i < j ∧ ∃ k, 2 ≤ k ∧ g.name = Lexical.numbered f.name k := by
  rw [List.pairwise_map, List.pairwise_iff_getElem] at h
  obtain ⟨hi', rfl⟩ := List.getElem?_eq_some_iff.1 hi
  obtain ⟨hj', rfl⟩ := List.getElem?_eq_some_iff.1 hj
  rcases Nat.lt_trichotomy i j with hlt | heq | hlt
  · exact Or.inr ⟨hlt, (h i j hi' hj' hlt).2 hname⟩
  · exact Or.inl heq
  · exact absurd hname (h j i hj' hi' hlt).1

end Plan

/-! ## Reading -/

namespace Render

open Plan
open Client (Settings)
open OpenApi (Document)

/-- The name in messages that the declaration of a field gives. -/
def alias? (f : Field) : Option String := if f.needsAlias then some f.wireName else none

/-- The declaration writes this name down. -/
theorem aliasArgument_eq (f : Field) :
    aliasArgument f = ((alias? f).map fun name => ", alias=" ++ Lexical.quote name).getD "" := by
  unfold aliasArgument alias?
  split <;> rfl

/-- What a field takes from a message, by the rules of the model class: the value under the name
that its declaration gives, or under its identifier if it gives none; and if there is no such value,
that under its identifier, as far as the class allows this. -/
def populate (m : Model) (message : List (String × Json)) (f : Field) : Option Json :=
  (Json.find? ((alias? f).getD f.name) message).or
    (if (ModelClass.ofModel m).hasAliases then Json.find? f.name message else none)

/-- Every key of the message is what some field is called in messages. -/
def HasWireNames (m : Model) (message : List (String × Json)) : Prop :=
  ∀ key ∈ message.map Prod.fst, key ∈ m.fields.map Field.wireName

/-- How a model reads messages that hold nothing but names of its fields. -/
structure ReadsByWireNames (m : Model) : Prop where
  /-- The name that reading goes by is the one that the declaration writes down. -/
  declared : ∀ f ∈ m.fields,
    aliasArgument f = ((alias? f).map fun name => ", alias=" ++ Lexical.quote name).getD ""
  /-- A field takes the value under its own name. -/
  own : ∀ message, HasWireNames m message → ∀ f ∈ m.fields, ∀ value,
    Json.find? f.wireName message = some value → populate m message f = some value
  /-- Without one, it takes the value of a later field whose name is its identifier. -/
  later : ∀ message, HasWireNames m message → ∀ (i j : Nat) (f g : Field),
    m.fields[i]? = some f → m.fields[j]? = some g → i < j → f.name = g.wireName →
      Json.find? f.wireName message = none →
        (ModelClass.ofModel m).hasAliases = true ∧
          populate m message f = Json.find? g.wireName message
  /-- If there is no such field either, it takes nothing. -/
  nothing : ∀ message, HasWireNames m message → ∀ (i : Nat) (f : Field), m.fields[i]? = some f →
    (∀ (j : Nat) (g : Field), i < j → m.fields[j]? = some g → f.name ≠ g.wireName) →
      Json.find? f.wireName message = none → populate m message f = none
  /-- No earlier field is called like an identifier, and later ones have counters. -/
  numbered_of_name_eq : ∀ (i j : Nat) (f g : Field), m.fields[i]? = some f →
    m.fields[j]? = some g → f.name = g.wireName →
      i = j ∨ i < j ∧ ∃ k, 2 ≤ k ∧ g.name = Lexical.numbered f.name k
  /-- Every field gets the value under its own name or nothing exactly if no identifier is what a
  field of another name is called. -/
  own_iff : (∀ message, HasWireNames m message → ∀ f ∈ m.fields,
      populate m message f = Json.find? f.wireName message) ↔
    ∀ f ∈ m.fields, ∀ g ∈ m.fields, f.name = g.wireName → f.wireName = g.wireName

/-- A field takes the value under its name in messages, or else that under its identifier. -/
theorem populate_eq {m : Model} {f : Field} (hf : f ∈ m.fields) (message : List (String × Json)) :
    populate m message f =
      (Json.find? f.wireName message).or (Json.find? f.name message) := by
  unfold populate alias?
  by_cases hname : f.name = f.wireName
  · have halias : f.needsAlias = false := by rw [Field.needsAlias, hname, bne_self_eq_false]
    rw [halias, if_neg Bool.false_ne_true, Option.getD_none, hname, Option.or_self]
    cases hfind : Json.find? f.wireName message with
    | none => simp
    | some value => rfl
  · have halias : f.needsAlias = true := bne_iff_ne.2 hname
    have hclass : (ModelClass.ofModel m).hasAliases = true :=
      List.any_eq_true.2 ⟨f, hf, halias⟩
    rw [halias, if_pos rfl, Option.getD_some, hclass, if_pos rfl]

theorem mem_of_find?_eq_some {key : String} {message : List (String × Json)} {value : Json}
    (h : Json.find? key message = some value) : key ∈ message.map Prod.fst := by
  obtain ⟨before, after, rfl, -⟩ := List.lookup_eq_some_iff.1 h
  simp

theorem own_iff_of_wireNames (m : Model) :
    (∀ message, HasWireNames m message → ∀ f ∈ m.fields,
      populate m message f = Json.find? f.wireName message) ↔
    ∀ f ∈ m.fields, ∀ g ∈ m.fields, f.name = g.wireName → f.wireName = g.wireName := by
  constructor
  · intro h f hf g hg hname
    by_contra hne
    -- the message with the name of `g` alone gives its value to `f` as well
    have hkeys : HasWireNames m [(g.wireName, .null)] := by
      intro key hkey
      rw [List.map_singleton, List.mem_singleton] at hkey
      rw [hkey]
      exact List.mem_map_of_mem hg
    have hread := h _ hkeys f hf
    have hown : Json.find? f.wireName [(g.wireName, Json.null)] = none := by
      rw [Json.find?, List.lookup_cons, beq_false_of_ne hne, List.lookup_nil]
    have hother : Json.find? f.name [(g.wireName, Json.null)] = some .null := by
      simp [Json.find?, hname]
    rw [populate_eq hf, hown, hother] at hread
    cases hread
  · intro h message hkeys f hf
    rw [populate_eq hf]
    cases hown : Json.find? f.wireName message with
    | some value => rfl
    | none =>
        rw [Option.none_or]
        by_contra hsome
        obtain ⟨value, hvalue⟩ := Option.ne_none_iff_exists'.1 hsome
        obtain ⟨g, hg, hname⟩ := List.mem_map.1 (hkeys _ (mem_of_find?_eq_some hvalue))
        have hsame := h f hf g hg hname.symm
        rw [← hname, ← hsame, hown] at hvalue
        cases hvalue

/-- A model in which a field has an identifier with a counter gives a name in messages. -/
theorem hasAliases_of_numbered {m : Model} {f : Field} {base : String} {k : Nat} (hf : f ∈ m.fields)
    (hname : f.name = Lexical.numbered base k) (hwire : f.wireName = base) :
    (ModelClass.ofModel m).hasAliases = true := by
  refine List.any_eq_true.2 ⟨f, hf, bne_iff_ne.2 ?_⟩
  rw [hname, hwire]
  exact Lexical.numbered_ne_self base k

theorem readsByWireNames_of_pairwise {m : Model}
    (h : (m.fields.map Field.names).Pairwise NamesPrecede) : ReadsByWireNames m where
  declared := fun f _ => aliasArgument_eq f
  own := by
    intro message _ f hf value hown
    rw [populate_eq hf, hown, Option.some_or]
  later := by
    intro message _ i j f g hi hj hlt hname hown
    obtain ⟨k, -, hnumbered⟩ :=
      ((eq_or_lt_of_name_eq_wireName h hi hj hname).resolve_left (Nat.ne_of_lt hlt)).2
    refine ⟨hasAliases_of_numbered (List.mem_of_getElem? hj) hnumbered hname.symm, ?_⟩
    rw [populate_eq (List.mem_of_getElem? hi), hown, Option.none_or, hname]
  nothing := by
    intro message hkeys i f hi hlater hown
    rw [populate_eq (List.mem_of_getElem? hi), hown, Option.none_or]
    by_contra hsome
    obtain ⟨value, hvalue⟩ := Option.ne_none_iff_exists'.1 hsome
    obtain ⟨g, hg, hname⟩ := List.mem_map.1 (hkeys _ (mem_of_find?_eq_some hvalue))
    obtain ⟨j, hj⟩ := List.mem_iff_getElem?.1 hg
    rcases eq_or_lt_of_name_eq_wireName h hi hj hname.symm with rfl | ⟨hlt, -⟩
    · rw [hi] at hj
      cases hj
      rw [← hname, hown] at hvalue
      cases hvalue
    · exact hlater j g hlt hj hname.symm
  numbered_of_name_eq := fun _ _ _ _ hi hj hname => eq_or_lt_of_name_eq_wireName h hi hj hname
  own_iff := own_iff_of_wireNames m

/-- All models of a plan read messages by the names of their fields. -/
theorem readsByWireNames_of_build (d : Document) (s : Settings) (p : TypedClient.Plan)
    (h : build d s = .ok p) : ∀ m ∈ p.models, ReadsByWireNames m :=
  fun m hm => readsByWireNames_of_pairwise (pairwise_namesPrecede_of_build h m hm)

/-- A class with two properties that differ in a character which no identifier holds. -/
def handles : Json := .object [
  ("openapi", .string "3.0.0"),
  ("paths", .object []),
  ("components", .object [("schemas", .object [
    ("Job", .object [
      ("type", .string "object"),
      ("properties", .object [
        ("x-id", .object [("type", .string "integer")]),
        ("x_id", .object [("type", .string "integer")])])])])])]

theorem exists_build_handles :
    ∃ d p, Document.ofJson handles = .ok d ∧ build d {} = .ok p ∧
      (p.models.map fun m => m.fields.map Field.names) =
        [[("x_id", "x-id"), ("x_id_2", "x_id")]] := by
  have hgenerates : generates handles {} (fun p =>
    (p.models.map fun m => m.fields.map Field.names) ==
      [[("x_id", "x-id"), ("x_id_2", "x_id")]]) = true := by decide +kernel
  obtain ⟨d, p, hd, hp, hnames⟩ := exists_of_generates hgenerates
  exact ⟨d, p, hd, hp, eq_of_beq hnames⟩

theorem readsByWireNames_of_build_handles :
    ∃ d p, Document.ofJson handles = .ok d ∧ build d {} = .ok p ∧ p.models.length = 1 ∧
      ∀ m ∈ p.models, ReadsByWireNames m := by
  obtain ⟨d, p, hd, hp, hnames⟩ := exists_build_handles
  have hlength := congrArg List.length hnames
  rw [List.length_map] at hlength
  exact ⟨d, p, hd, hp, hlength, readsByWireNames_of_build d {} p hp⟩

/-- The value of the second property is read for the first one, too. -/
theorem populate_handles :
    ∃ d p, Document.ofJson handles = .ok d ∧ build d {} = .ok p ∧
      (p.models.map fun m => m.fields.map Field.names) =
        [[("x_id", "x-id"), ("x_id_2", "x_id")]] ∧
      ¬∀ m ∈ p.models, ∀ message, HasWireNames m message → ∀ f ∈ m.fields,
        populate m message f = Json.find? f.wireName message := by
  obtain ⟨d, p, hd, hp, hnames⟩ := exists_build_handles
  refine ⟨d, p, hd, hp, hnames, ?_⟩
  intro hall
  obtain ⟨m, hm, hfields⟩ := List.mem_map.1 (hnames ▸ List.mem_singleton_self _)
  have hfirst : ("x_id", "x-id") ∈ m.fields.map Field.names := by simp [hfields]
  have hsecond : ("x_id_2", "x_id") ∈ m.fields.map Field.names := by simp [hfields]
  obtain ⟨f, hf, hfirst⟩ := List.mem_map.1 hfirst
  obtain ⟨g, hg, hsecond⟩ := List.mem_map.1 hsecond
  obtain ⟨hname, hwire⟩ := Prod.mk.inj hfirst
  obtain ⟨-, hwire'⟩ := Prod.mk.inj hsecond
  have hsame := (own_iff_of_wireNames m).1 (hall m hm) f hf g hg (hname.trans hwire'.symm)
  rw [hwire, hwire'] at hsame
  exact absurd hsame (by decide)

end Render

end TypedClient
