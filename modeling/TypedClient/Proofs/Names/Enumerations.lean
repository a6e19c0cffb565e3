import TypedClient.Proofs.Json.WrittenForm
import TypedClient.Proofs.Lexical.FreshNames
import TypedClient.Proofs.Lists
import TypedClient.Proofs.Names.Claims

/-!
# Declared enumerations

An enumeration is found again by its name, and that of a field also by the field and the way its
values are written. `Names.Coherent` ties the two indexes to the list of enumerations and to the
class names: every request keeps it (`coherent_of_answer`), as long as the values are proper, so
that equal texts mean equal values.
-/

namespace TypedClient.Plan

/-! ## Members -/

section Members

variable (values : List Json)

/-- The members stand for the values, one each and in order. -/
theorem map_value_membersOf : (membersOf values).map Member.value = values := by
  exact map_zipWith_right (fun _ _ => rfl) (Lexical.length_uniqueAll_map _ _ _).ge

theorem map_identifier_membersOf :
    (membersOf values).map Member.identifier =
      Lexical.uniqueAll [] (values.map memberBase) := by
  exact map_zipWith_left (fun _ _ => rfl) (Lexical.length_uniqueAll_map _ _ _).le

theorem isValidIdentifier_memberBase (v : Json) :
    Lexical.isValidIdentifier (memberBase v) = true := by
  unfold memberBase Naming.literalMemberName Naming.textMemberName
  split <;> exact Lexical.isValidIdentifier_sanitize _

theorem nodup_identifier_membersOf : ((membersOf values).map Member.identifier).Nodup := by
  rw [map_identifier_membersOf]
  exact Lexical.nodup_uniqueAll [] _

theorem isValidIdentifier_of_mem_membersOf {m : Member} (hm : m ∈ membersOf values) :
    Lexical.isValidIdentifier m.identifier = true := by
  have hmem : m.identifier ∈ Lexical.uniqueAll [] (values.map memberBase) := by
    rw [← map_identifier_membersOf]
    exact List.mem_map_of_mem hm
  refine Lexical.isValidIdentifier_of_mem_uniqueAll ?_ _ hmem
  intro base hbase
  obtain ⟨v, -, rfl⟩ := List.mem_map.1 hbase
  exact isValidIdentifier_memberBase v

end Members

theorem writtenValues_inj {values others : List Json} (hvalues : Json.ProperItems values)
    (hothers : Json.ProperItems others) (h : writtenValues values = writtenValues others) :
    values = others :=
  Json.array.inj (Json.text_inj (v := .array values) (w := .array others) hvalues hothers h)

/-! ## Claims -/

theorem lookup_append_of_lookup {claims : List (String × String)} {name first : String}
    (h : claims.lookup name = some first) (origin other : String) :
    (claims ++ [(name, origin)]).lookup other = claims.lookup other := by
  rw [List.lookup_append]
  cases hother : claims.lookup other with
  | some o => rfl
  | none =>
      have hne : (other == name) = false := by
        by_contra hne
        have heq : other = name := by simpa using hne
        rw [heq, h] at hother
        cases hother
      rw [Option.none_or, List.lookup_cons, hne, List.lookup_nil]

theorem lookup_of_claim_eq_ok {claims next : List (String × String)} {name origin : String}
    (h : claim claims name origin = .ok next) (other : String) :
    next.lookup other = (claims ++ [(name, origin)]).lookup other := by
  unfold claim at h
  split at h
  · next first hfirst =>
      split at h
      · cases h
        exact (lookup_append_of_lookup hfirst origin other).symm
      · cases h
  · next hnone =>
      cases h
      rw [List.lookup_append, List.lookup_cons, List.lookup_cons]
      split
      · next heq =>
          rw [eq_of_beq heq, hnone]
          rfl
      · rw [List.lookup_nil, Option.or_none]

/-- A claim fails exactly if the name stands for something else. -/
theorem claim_eq_error_iff {claims : List (String × String)} {name origin first : String} :
    claim claims name origin = .error first ↔ claims.lookup name = some first ∧ first ≠ origin := by
  constructor
  · intro h
    unfold claim at h
    split at h
    · next other hother =>
        split at h
        · cases h
        · next hne =>
            cases h
            exact ⟨hother, by simpa using hne⟩
    · cases h
  · rintro ⟨hfirst, hne⟩
    exact claim_of_lookup_ne hfirst hne

/-- What is requested for an enumeration: a run of values, if any. -/
def NameRequest.values? : NameRequest → Option (List Json)
  | .fieldEnum _ _ values => some values
  | .namedEnum _ values _ => some values
  | _ => none

/-- The values of the request are proper. -/
def NameRequest.Proper (r : NameRequest) : Prop := ∀ values ∈ r.values?, Json.ProperItems values

namespace Names

variable {n next last : Names} {name origin owner field : String} {values : List Json}

theorem claimFunction_eq_error_iff {e : GenerationError} :
    n.claimFunction name origin = .error e ↔ ∃ first, n.functions.lookup name = some first ∧
      first ≠ origin ∧ e = .functionCollision name first origin := by
  unfold claimFunction
  constructor
  · intro h
    split at h
    · cases h
    · next first hfirst =>
        cases h
        obtain ⟨hlookup, hne⟩ := claim_eq_error_iff.1 hfirst
        exact ⟨first, hlookup, hne, rfl⟩
  · rintro ⟨first, hlookup, hne, rfl⟩
    rw [claim_eq_error_iff.2 ⟨hlookup, hne⟩]

theorem claimType_eq_error_iff {e : GenerationError} :
    n.claimType name origin = .error e ↔ ∃ first, n.types.lookup name = some first ∧
      first ≠ origin ∧ e = .modelCollision name first origin := by
  unfold claimType
  constructor
  · intro h
    split at h
    · cases h
    · next first hfirst =>
        cases h
        obtain ⟨hlookup, hne⟩ := claim_eq_error_iff.1 hfirst
        exact ⟨first, hlookup, hne, rfl⟩
  · rintro ⟨first, hlookup, hne, rfl⟩
    rw [claim_eq_error_iff.2 ⟨hlookup, hne⟩]

/-! ## What a request does -/

theorem map_eq_ok {x : Except GenerationError Names} {name' : String}
    (h : x.map (name, ·) = .ok (name', next)) : x = .ok next := by
  cases x with
  | error e => cases h
  | ok claimed =>
      cases h
      rfl

/-! ## Coherent names -/

/-- The invariant of every run of requests. -/
structure Coherent (n : Names) : Prop where
  enums_nodup : (n.enums.map Enumeration.name).Nodup
  enum_claimed : ∀ e ∈ n.enums, n.hasType e.name = true
  enum_members : ∀ e ∈ n.enums, e.members = membersOf e.values
  indexed : n.Indexed
  /-- What a field finds by its written values has these values. -/
  fieldEnum_same : ∀ field written i, n.fieldEnums.lookup (field, written) = some i →
    ∃ values, Json.ProperItems values ∧ writtenValues values = written ∧
      Json.sameItems (n.enumAt i).values values = true

/-- The later names hold everything that the earlier ones do, the enumerations of fields
included. -/
structure Keeps (n next : Names) : Prop where
  extended : n.Extends next
  fieldEnums : ∀ key i, n.fieldEnums.lookup key = some i → next.fieldEnums.lookup key = some i

theorem Keeps.refl (n : Names) : n.Keeps n := ⟨Extends.refl n, fun _ _ h => h⟩

theorem Keeps.trans (h : n.Keeps next) (h' : next.Keeps last) : n.Keeps last :=
  ⟨h.extended.trans h'.extended, fun key i hkey => h'.fieldEnums key i (h.fieldEnums key i hkey)⟩

/-- An enumeration stays at its position. -/
theorem Extends.enumAt_eq (h : n.Extends next) {i : Nat} (hi : i < n.enums.length) :
    next.enumAt i = n.enumAt i := by
  rw [enumAt_of_getElem? (List.getElem?_eq_getElem hi),
    enumAt_of_getElem? (List.prefix_iff_getElem?.1 h.enums i hi)]

/-- An enumeration is found by its name from then on. -/
theorem Extends.enum?_eq_some (h : n.Extends next) (hn : n.Indexed) (hnext : next.Indexed)
    {e : Enumeration} (he : n.enum? name = some e) : next.enum? name = some e := by
  obtain ⟨hmem, hname⟩ := hn.enum?_eq_some_iff.1 he
  exact hnext.enum?_eq_some_iff.2 ⟨h.enums.subset hmem, hname⟩

theorem coherent_empty : ({} : Names).Coherent where
  enums_nodup := List.nodup_nil
  enum_claimed := fun e he => absurd he List.not_mem_nil
  enum_members := fun e he => absurd he List.not_mem_nil
  indexed := indexed_empty
  fieldEnum_same := by
    intro field written i h
    cases h

theorem hasType_of_claim {types : List (String × String)} {other : String}
    (h : claim n.types name origin = .ok types) (hother : n.hasType other = true) :
    (types.lookup other).isSome = true := by
  obtain ⟨o, ho⟩ := Option.isSome_iff_exists.1 hother
  rw [lookup_of_claim_of_lookup h ho, Option.isSome_some]

theorem coherent_of_claimFunction (hn : n.Coherent) (h : n.claimFunction name origin = .ok next) :
    next.Coherent ∧ n.Keeps next := by
  obtain ⟨functions, hfunctions, rfl⟩ := claimFunction_eq_ok h
  have hindexed : Indexed { n with functions := functions } :=
    ⟨hn.indexed.byName_iff, hn.indexed.fieldEnums_lt⟩
  refine ⟨⟨hn.enums_nodup, hn.enum_claimed, hn.enum_members, hindexed, hn.fieldEnum_same⟩,
    ⟨?_, ?_, ?_⟩, ?_⟩
  · exact fun _ _ ho => lookup_of_claim_of_lookup hfunctions ho
  · exact fun _ _ ho => ho
  · exact List.prefix_refl _
  · exact fun _ _ hkey => hkey

theorem coherent_of_claimType (hn : n.Coherent) (h : n.claimType name origin = .ok next) :
    next.Coherent ∧ n.Keeps next := by
  obtain ⟨types, htypes, rfl⟩ := claimType_eq_ok h
  have hindexed : Indexed { n with types := types } :=
    ⟨hn.indexed.byName_iff, hn.indexed.fieldEnums_lt⟩
  refine ⟨⟨hn.enums_nodup, ?_, hn.enum_members, hindexed, hn.fieldEnum_same⟩, ⟨?_, ?_, ?_⟩, ?_⟩
  · exact fun e he => hasType_of_claim htypes (hn.enum_claimed e he)
  · exact fun _ _ ho => ho
  · exact fun _ _ ho => lookup_of_claim_of_lookup htypes ho
  · exact List.prefix_refl _
  · exact fun _ _ hkey => hkey

theorem coherent_append (hn : n.Coherent) (values : List Json) {types : List (String × String)}
    (hnone : n.byName.lookup name = none) (htypes : claim n.types name origin = .ok types) :
    let next : Names := { n with
      types := types
      enums := n.enums ++ [⟨name, membersOf values⟩]
      byName := (name, n.enums.length) :: n.byName }
    next.Coherent ∧ n.Keeps next := by
  intro next
  have hindexed : next.Indexed :=
    have happended := hn.indexed.append (e := ⟨name, membersOf values⟩) hnone
    ⟨happended.byName_iff, happended.fieldEnums_lt⟩
  have hextended : n.Extends next :=
    ⟨fun _ _ ho => ho, fun _ _ ho => lookup_of_claim_of_lookup htypes ho, List.prefix_append _ _⟩
  refine ⟨⟨?_, ?_, ?_, hindexed, ?_⟩, hextended, fun _ _ hkey => hkey⟩
  · rw [List.map_append]
    refine List.Nodup.append hn.enums_nodup (List.nodup_singleton _) ?_
    simpa using hn.indexed.not_mem_of_lookup hnone
  · intro e he
    rcases List.mem_append.1 he with he | he
    · exact hasType_of_claim htypes (hn.enum_claimed e he)
    · rw [List.mem_singleton.1 he, hasType, lookup_of_claim htypes, Option.isSome_some]
  · intro e he
    rcases List.mem_append.1 he with he | he
    · exact hn.enum_members e he
    · rw [List.mem_singleton.1 he, Enumeration.values, map_value_membersOf]
  · intro field written i hi
    obtain ⟨values, hproper, hwritten, hsame⟩ := hn.fieldEnum_same field written i hi
    rw [← hextended.enumAt_eq (hn.indexed.fieldEnums_lt _ _ hi)] at hsame
    exact ⟨values, hproper, hwritten, hsame⟩

/-- An enumeration that is declared stands at the given position, under its name and with equal
values. -/
theorem coherent_of_declareEnum (hn : n.Coherent) (hvalues : Json.ProperItems values) {i : Nat}
    (h : n.declareEnum name values origin = .ok (i, next)) :
    next.Coherent ∧ n.Keeps next ∧ next.byName.lookup name = some i ∧
      Json.sameItems (next.enumAt i).values values = true := by
  rcases declareEnum_eq_ok h with ⟨hfound, hsame, rfl⟩ | ⟨hnone, rfl, types, htypes, rfl⟩
  · exact ⟨hn, Keeps.refl next, hfound, hsame⟩
  · obtain ⟨hcoherent, hkeeps⟩ := coherent_append hn values hnone htypes
    refine ⟨hcoherent, hkeeps, List.lookup_cons_self, ?_⟩
    rw [enumAt_of_getElem? (List.getElem?_concat_length ..), Enumeration.values,
      map_value_membersOf]
    exact Json.sameItems_self values hvalues

theorem coherent_cons_fieldEnum (hn : n.Coherent) (hvalues : Json.ProperItems values)
    (hnone : n.fieldEnums.lookup (field, writtenValues values) = none) {i : Nat}
    (hi : i < n.enums.length) (hsame : Json.sameItems (n.enumAt i).values values = true) :
    let next : Names := { n with
      fieldEnums := ((field, writtenValues values), i) :: n.fieldEnums }
    next.Coherent ∧ n.Keeps next := by
  refine ⟨⟨hn.enums_nodup, hn.enum_claimed, hn.enum_members, hn.indexed.cons_fieldEnums _ hi, ?_⟩,
    ⟨fun _ _ ho => ho, fun _ _ ho => ho, List.prefix_refl _⟩, ?_⟩
  · intro other written found hfound
    rw [List.lookup_cons] at hfound
    split at hfound
    · next heq =>
        obtain ⟨-, rfl⟩ := Prod.mk.inj (eq_of_beq heq)
        cases hfound
        exact ⟨values, hvalues, rfl, hsame⟩
    · exact hn.fieldEnum_same other written found hfound
  · intro key found hfound
    rw [List.lookup_cons]
    split
    · next heq =>
        rw [eq_of_beq heq, hnone] at hfound
        cases hfound
    · exact hfound

/-- An enumeration at a position of the list is the one that is found by its name. -/
theorem Indexed.enum?_name (hn : n.Indexed) {i : Nat} (hi : i < n.enums.length) :
    n.enum? (n.enumAt i).name = some (n.enumAt i) :=
  hn.enum?_eq_some_iff.2 ⟨enumAt_mem hi, rfl⟩

/-- The enumeration of a field has its values, whether it was declared for this field or found, and
the index of the fields leads to it. -/
theorem coherent_of_fieldEnum (hn : n.Coherent) (hvalues : Json.ProperItems values)
    (h : n.fieldEnum owner field values = .ok (name, next)) :
    next.Coherent ∧ n.Keeps next ∧ ∃ i,
      next.fieldEnums.lookup (field, writtenValues values) = some i ∧
      (next.enumAt i).name = name ∧ Json.sameItems (next.enumAt i).values values = true := by
  rcases fieldEnum_eq_ok h with ⟨i, hfound, rfl, rfl⟩ | ⟨hnone, -, i, declared, hdeclared, rfl⟩
  · obtain ⟨others, hothers, hwritten, hsame⟩ := hn.fieldEnum_same _ _ _ hfound
    obtain rfl := writtenValues_inj hothers hvalues hwritten
    exact ⟨hn, Keeps.refl next, i, hfound, rfl, hsame⟩
  · obtain ⟨hcoherent, hkeeps, hname, hsame⟩ := coherent_of_declareEnum hn hvalues hdeclared
    have hfresh : declared.fieldEnums.lookup (field, writtenValues values) = none := by
      rcases declareEnum_eq_ok hdeclared with ⟨-, -, rfl⟩ | ⟨-, -, -, -, rfl⟩ <;> exact hnone
    obtain ⟨e, he, hename⟩ := (hcoherent.indexed.byName_iff name i).1 hname
    have hi := (List.getElem?_eq_some_iff.1 he).1
    obtain ⟨hcoherent', hkeeps'⟩ := coherent_cons_fieldEnum hcoherent hvalues hfresh hi hsame
    refine ⟨hcoherent', hkeeps.trans hkeeps', i, List.lookup_cons_self, ?_, hsame⟩
    change (declared.enumAt i).name = name
    rw [enumAt_of_getElem? he, hename]

/-- Every request that succeeds keeps the names coherent and takes nothing back, and an enumeration
that it asks for is found by its name. -/
theorem coherent_of_answer (hn : n.Coherent) {r : NameRequest} (hr : r.Proper)
    (h : n.answer r = .ok (name, next)) :
    next.Coherent ∧ n.Keeps next ∧ ∀ values ∈ r.values?,
      ∃ e, next.enum? name = some e ∧ Json.sameItems e.values values = true := by
  cases r with
  | function name' origin =>
      obtain ⟨hcoherent, hkeeps⟩ := coherent_of_claimFunction hn (map_eq_ok h)
      exact ⟨hcoherent, hkeeps, fun values hvalues => by cases hvalues⟩
  | type name' origin =>
      obtain ⟨hcoherent, hkeeps⟩ := coherent_of_claimType hn (map_eq_ok h)
      exact ⟨hcoherent, hkeeps, fun values hvalues => by cases hvalues⟩
  | fieldEnum owner field values =>
      obtain ⟨hcoherent, hkeeps, i, hfound, hname, hsame⟩ :=
        coherent_of_fieldEnum hn (hr values rfl) h
      refine ⟨hcoherent, hkeeps, ?_⟩
      intro values' hvalues'
      cases hvalues'
      refine ⟨next.enumAt i, ?_, hsame⟩
      rw [← hname, hcoherent.indexed.enum?_name (hcoherent.indexed.fieldEnums_lt _ _ hfound)]
  | namedEnum name' values origin =>
      obtain ⟨rfl, i, hdeclared⟩ := namedEnum_eq_ok h
      obtain ⟨hcoherent, hkeeps, hname, hsame⟩ :=
        coherent_of_declareEnum hn (hr values rfl) hdeclared
      refine ⟨hcoherent, hkeeps, ?_⟩
      intro values' hvalues'
      cases hvalues'
      exact ⟨next.enumAt i, by rw [enum?, hname, Option.map_some], hsame⟩

end Names

end TypedClient.Plan
