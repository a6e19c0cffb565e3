import Mathlib.Data.List.Nodup
import TypedClient.Plan.Component

/-!
# Given names

A name that was given stands for one thing from then on: `Names.Extends` says that later names keep
what earlier ones hold. `Names.Indexed` is what makes the two indexes of the enumerations agree with
their list: a name is indexed with a position exactly if the enumeration of this name stands there,
and a field with none but positions in the list. `Names.Sound` is the invariant of a run: the
indexes are right, enumerations have distinct names, and each is claimed by what declares it. Every
request that succeeds extends the names and keeps them sound (`Names.Grows`).
-/

namespace TypedClient.Plan

/-! ## Claims -/

section Claim

variable {claims next : List (String × String)} {name origin : String}

/-- A claim that succeeds records what the name stands for. -/
theorem lookup_of_claim (h : claim claims name origin = .ok next) :
    next.lookup name = some origin := by
  unfold claim at h
  split at h
  · next first hfirst =>
      split at h
      · next heq =>
          cases h
          rw [hfirst, eq_of_beq heq]
      · cases h
  · cases h
    simp

/-- A claim that succeeds changes nothing that was claimed before. -/
theorem lookup_of_claim_of_lookup (h : claim claims name origin = .ok next) {other o : String}
    (ho : claims.lookup other = some o) : next.lookup other = some o := by
  unfold claim at h
  split at h
  · split at h
    · cases h
      exact ho
    · cases h
  · next hnone =>
      cases h
      have hne : (other == name) = false := by
        by_contra hne
        have heq : other = name := by simpa using hne
        rw [heq, hnone] at ho
        cases ho
      rw [List.lookup_cons, hne]
      exact ho

end Claim

/-! ## Names that grow -/

/-- The later names hold everything that the earlier ones do. -/
structure Names.Extends (n next : Names) : Prop where
  functions : ∀ name origin,
    n.functions.lookup name = some origin → next.functions.lookup name = some origin
  types : ∀ name origin, n.types.lookup name = some origin → next.types.lookup name = some origin
  enums : n.enums <+: next.enums

/-- The indexes agree with the list of enumerations. -/
structure Names.Indexed (n : Names) : Prop where
  byName_iff : ∀ name i,
    n.byName.lookup name = some i ↔ ∃ e, n.enums[i]? = some e ∧ e.name = name
  fieldEnums_lt : ∀ key i, n.fieldEnums.lookup key = some i → i < n.enums.length

/-- The components of which one stands for the target. -/
def Components.Has (components : Components) (t : Target) : Prop :=
  ∃ component s, (component, s) ∈ components ∧ Target.ofComponent component s = t

/-- What the name of an enumeration is claimed for: a field or a component. -/
def EnumOrigin (components : Components) (name origin : String) : Prop :=
  (∃ owner field, origin = "enum " ++ owner ++ "." ++ field) ∨
    ∃ component s, (component, s) ∈ components ∧
      Target.ofComponent component s = .enumeration name ∧ origin = componentOrigin component

/-- The invariant of the names of a run. -/
structure Names.Sound (components : Components) (n : Names) : Prop where
  enums_nodup : (n.enums.map Enumeration.name).Nodup
  enum_claimed : ∀ name ∈ n.enums.map Enumeration.name,
    ∃ origin, n.types.lookup name = some origin ∧ EnumOrigin components name origin
  indexed : n.Indexed

/-- The later names are sound and hold everything that the earlier ones do. -/
structure Names.Grows (components : Components) (n next : Names) : Prop where
  sound : next.Sound components
  extended : n.Extends next

namespace Names

variable {components : Components} {n next last : Names}

theorem Extends.refl (n : Names) : n.Extends n :=
  ⟨fun _ _ h => h, fun _ _ h => h, List.prefix_refl _⟩

theorem Extends.trans (h : n.Extends next) (h' : next.Extends last) : n.Extends last :=
  ⟨fun name origin ho => h'.functions name origin (h.functions name origin ho),
    fun name origin ho => h'.types name origin (h.types name origin ho), h.enums.trans h'.enums⟩

/-- A declared enumeration stays declared. -/
theorem Extends.mem_enums (h : n.Extends next) {name : String}
    (hname : name ∈ n.enums.map Enumeration.name) : name ∈ next.enums.map Enumeration.name :=
  (h.enums.map Enumeration.name).subset hname

/-! ## Indexes -/

theorem indexed_empty : ({} : Names).Indexed where
  byName_iff := by
    intro name i
    simp
  fieldEnums_lt := by
    intro key i h
    cases h

theorem enumAt_of_getElem? {i : Nat} {e : Enumeration} (h : n.enums[i]? = some e) :
    n.enumAt i = e := by
  rw [enumAt, List.getD_eq_getElem?_getD, h, Option.getD_some]

theorem enumAt_mem {i : Nat} (h : i < n.enums.length) : n.enumAt i ∈ n.enums := by
  rw [enumAt_of_getElem? (List.getElem?_eq_getElem h)]
  exact List.getElem_mem h

/-- An enumeration is found by its name, and by no other. -/
theorem Indexed.enum?_eq_some_iff (hn : n.Indexed) {name : String} {e : Enumeration} :
    n.enum? name = some e ↔ e ∈ n.enums ∧ e.name = name := by
  rw [enum?, Option.map_eq_some_iff, List.mem_iff_getElem?]
  constructor
  · rintro ⟨i, hi, rfl⟩
    obtain ⟨e, he, hname⟩ := (hn.byName_iff name i).1 hi
    rw [enumAt_of_getElem? he]
    exact ⟨⟨i, he⟩, hname⟩
  · rintro ⟨⟨i, hi⟩, hname⟩
    exact ⟨i, (hn.byName_iff name i).2 ⟨e, hi, hname⟩, enumAt_of_getElem? hi⟩

/-- A name that is not in the index is the name of no enumeration. -/
theorem Indexed.not_mem_of_lookup (hn : n.Indexed) {name : String}
    (h : n.byName.lookup name = none) : name ∉ n.enums.map Enumeration.name := by
  intro hmem
  obtain ⟨e, he, hname⟩ := List.mem_map.1 hmem
  have hfound := hn.enum?_eq_some_iff.2 ⟨he, hname⟩
  rw [enum?, h] at hfound
  cases hfound

/-- A declared enumeration is entered in the index with the position where it is put. -/
theorem Indexed.append (hn : n.Indexed) {e : Enumeration}
    (hnone : n.byName.lookup e.name = none) :
    Indexed { n with
      enums := n.enums ++ [e]
      byName := (e.name, n.enums.length) :: n.byName } where
  byName_iff := by
    intro name i
    have hfresh := hn.not_mem_of_lookup hnone
    have hold := hn.byName_iff name i
    dsimp only
    rw [List.lookup_cons]
    rcases Nat.lt_trichotomy i n.enums.length with hlt | rfl | hlt
    · rw [List.getElem?_append_left hlt, ← hold]
      split
      · next heq =>
          rw [eq_of_beq heq, hnone]
          simp only [Option.some.injEq, reduceCtorEq, iff_false]
          omega
      · rfl
    · rw [List.getElem?_append_right (Nat.le_refl _), Nat.sub_self, List.getElem?_cons_zero]
      split
      · next heq => simp [eq_of_beq heq]
      · next hne =>
          have hnone : n.enums[n.enums.length]? = none := List.getElem?_eq_none (Nat.le_refl _)
          rw [hold, hnone]
          have hne : name ≠ e.name := fun heq => by simp [heq] at hne
          simp [hne.symm]
    · have hbeyond : (n.enums ++ [e])[i]? = none := by
        rw [List.getElem?_eq_none_iff, List.length_append, List.length_singleton]
        omega
      rw [hbeyond]
      split
      · simp [Nat.ne_of_lt hlt]
      · rw [hold, List.getElem?_eq_none (Nat.le_of_lt hlt)]
  fieldEnums_lt := by
    intro key i h
    have hlt := hn.fieldEnums_lt key i h
    rw [List.length_append, List.length_singleton]
    omega

/-- A field is entered in the index with a position in the list. -/
theorem Indexed.cons_fieldEnums (hn : n.Indexed) (key : String × String) {i : Nat}
    (hi : i < n.enums.length) :
    Indexed { n with fieldEnums := (key, i) :: n.fieldEnums } where
  byName_iff := hn.byName_iff
  fieldEnums_lt := by
    intro key' i' h
    rw [List.lookup_cons] at h
    split at h
    · rw [← Option.some.inj h]
      exact hi
    · exact hn.fieldEnums_lt key' i' h

theorem sound_empty (components : Components) : ({} : Names).Sound components where
  enums_nodup := List.nodup_nil
  enum_claimed := by
    intro name hname
    cases hname
  indexed := indexed_empty

theorem Grows.refl (hn : n.Sound components) : n.Grows components n := ⟨hn, Extends.refl n⟩

theorem Grows.trans (h : n.Grows components next) (h' : next.Grows components last) :
    n.Grows components last :=
  ⟨h'.sound, h.extended.trans h'.extended⟩

/-! ## Requests -/

theorem claimType_eq_ok {name origin : String} (h : n.claimType name origin = .ok next) :
    ∃ types, claim n.types name origin = .ok types ∧ next = { n with types := types } := by
  unfold claimType at h
  split at h
  · next types htypes =>
      cases h
      exact ⟨types, htypes, rfl⟩
  · cases h

theorem claimFunction_eq_ok {name origin : String} (h : n.claimFunction name origin = .ok next) :
    ∃ functions, claim n.functions name origin = .ok functions ∧
      next = { n with functions := functions } := by
  unfold claimFunction at h
  split at h
  · next functions hfunctions =>
      cases h
      exact ⟨functions, hfunctions, rfl⟩
  · cases h

/-- An enumeration is there with equal values, or its name is claimed and it is added. -/
theorem declareEnum_eq_ok {name origin : String} {values : List Json} {i : Nat}
    (h : n.declareEnum name values origin = .ok (i, next)) :
    (n.byName.lookup name = some i ∧ Json.sameItems (n.enumAt i).values values = true ∧ next = n) ∨
      (n.byName.lookup name = none ∧ i = n.enums.length ∧
        ∃ types, claim n.types name origin = .ok types ∧
          next = { n with
            types := types
            enums := n.enums ++ [⟨name, membersOf values⟩]
            byName := (name, n.enums.length) :: n.byName }) := by
  unfold declareEnum at h
  split at h
  · next found hfound =>
      dsimp only at h
      split at h
      · next hsame =>
          cases h
          exact Or.inl ⟨hfound, hsame, rfl⟩
      · cases h
  · next hnone =>
      split at h
      · cases h
      · next claimed hclaimed =>
          obtain ⟨types, htypes, rfl⟩ := claimType_eq_ok hclaimed
          cases h
          exact Or.inr ⟨hnone, rfl, types, htypes, rfl⟩

/-- The enumeration of a field is the one of an equal field, or it is declared for this one. -/
theorem fieldEnum_eq_ok {owner field name : String} {values : List Json}
    (h : n.fieldEnum owner field values = .ok (name, next)) :
    (∃ i, n.fieldEnums.lookup (field, writtenValues values) = some i ∧
        name = (n.enumAt i).name ∧ next = n) ∨
      (n.fieldEnums.lookup (field, writtenValues values) = none ∧
        name = Naming.enumName owner field ∧ ∃ i declared,
          n.declareEnum name values ("enum " ++ owner ++ "." ++ field) = .ok (i, declared) ∧
          next = { declared with
            fieldEnums := ((field, writtenValues values), i) :: declared.fieldEnums }) := by
  unfold fieldEnum at h
  simp only at h
  split at h
  · next i hfound =>
      cases h
      exact Or.inl ⟨i, hfound, rfl, rfl⟩
  · next hnone =>
      split at h
      · cases h
      · next i declared hdeclared =>
          cases h
          exact Or.inr ⟨hnone, rfl, i, declared, hdeclared, rfl⟩

theorem namedEnum_eq_ok {name name' origin : String} {values : List Json}
    (h : n.namedEnum name values origin = .ok (name', next)) :
    name' = name ∧ ∃ i, n.declareEnum name values origin = .ok (i, next) := by
  unfold namedEnum at h
  split at h
  · cases h
  · next i declared hdeclared =>
      cases h
      exact ⟨rfl, i, hdeclared⟩

/-- A class name that is claimed stands for its origin from then on. -/
theorem grows_of_claimType (hn : n.Sound components) {name origin : String}
    (h : n.claimType name origin = .ok next) :
    n.Grows components next ∧ next.types.lookup name = some origin := by
  obtain ⟨types, htypes, rfl⟩ := claimType_eq_ok h
  have hkeep : ∀ other o, n.types.lookup other = some o → types.lookup other = some o :=
    fun _ _ ho => lookup_of_claim_of_lookup htypes ho
  refine ⟨⟨⟨hn.enums_nodup, ?_, ⟨hn.indexed.byName_iff, hn.indexed.fieldEnums_lt⟩⟩,
    ⟨fun _ _ ho => ho, hkeep, List.prefix_refl _⟩⟩, lookup_of_claim htypes⟩
  intro other hother
  obtain ⟨o, ho, horigin⟩ := hn.enum_claimed other hother
  exact ⟨o, hkeep other o ho, horigin⟩

/-- A function name that is claimed stands for its origin from then on. -/
theorem grows_of_claimFunction (hn : n.Sound components) {name origin : String}
    (h : n.claimFunction name origin = .ok next) :
    n.Grows components next ∧ next.functions.lookup name = some origin := by
  obtain ⟨functions, hfunctions, rfl⟩ := claimFunction_eq_ok h
  have hkeep : ∀ other o, n.functions.lookup other = some o → functions.lookup other = some o :=
    fun _ _ ho => lookup_of_claim_of_lookup hfunctions ho
  exact ⟨⟨⟨hn.enums_nodup, hn.enum_claimed, ⟨hn.indexed.byName_iff, hn.indexed.fieldEnums_lt⟩⟩,
    ⟨hkeep, fun _ _ ho => ho, List.prefix_refl _⟩⟩, lookup_of_claim hfunctions⟩

/-- An enumeration with a name of its own, claimed as one, may be added. -/
theorem grows_of_append (hn : n.Sound components) {e : Enumeration} {origin : String}
    (hnone : n.byName.lookup e.name = none) (hlookup : n.types.lookup e.name = some origin)
    (horigin : EnumOrigin components e.name origin) :
    n.Grows components { n with
      enums := n.enums ++ [e]
      byName := (e.name, n.enums.length) :: n.byName } := by
  have hnames : (n.enums ++ [e]).map Enumeration.name =
      n.enums.map Enumeration.name ++ [e.name] := by simp
  have hfresh := hn.indexed.not_mem_of_lookup hnone
  refine ⟨⟨?_, ?_, hn.indexed.append hnone⟩,
    ⟨fun _ _ ho => ho, fun _ _ ho => ho, List.prefix_append _ _⟩⟩
  · rw [hnames]
    exact List.Nodup.append hn.enums_nodup (List.nodup_singleton e.name) (by simpa using hfresh)
  · intro name hname
    rw [hnames] at hname
    rcases List.mem_append.1 hname with hname | hname
    · exact hn.enum_claimed name hname
    · rw [List.mem_singleton.1 hname]
      exact ⟨origin, hlookup, horigin⟩

/-- An enumeration that is declared is there from then on, at the position that is given. -/
theorem grows_of_declareEnum (hn : n.Sound components) {name origin : String}
    {values : List Json} {i : Nat} (horigin : EnumOrigin components name origin)
    (h : n.declareEnum name values origin = .ok (i, next)) :
    n.Grows components next ∧ ∃ e, next.enums[i]? = some e ∧ e.name = name := by
  rcases declareEnum_eq_ok h with ⟨hfound, -, rfl⟩ | ⟨hnone, rfl, types, htypes, rfl⟩
  · exact ⟨Grows.refl hn, (hn.indexed.byName_iff name i).1 hfound⟩
  · have hclaimed : n.claimType name origin = .ok { n with types := types } := by
      rw [claimType, htypes]
    obtain ⟨hgrows, hlookup⟩ := grows_of_claimType hn hclaimed
    refine ⟨hgrows.trans (grows_of_append hgrows.sound hnone hlookup horigin),
      ⟨name, membersOf values⟩, ?_, rfl⟩
    simp

theorem grows_of_fieldEnum (hn : n.Sound components) {owner field name : String}
    {values : List Json} (h : n.fieldEnum owner field values = .ok (name, next)) :
    n.Grows components next ∧ name ∈ next.enums.map Enumeration.name := by
  rcases fieldEnum_eq_ok h with ⟨i, hfound, rfl, rfl⟩ | ⟨-, rfl, i, declared, hdeclared, rfl⟩
  · exact ⟨Grows.refl hn, List.mem_map_of_mem (enumAt_mem (hn.indexed.fieldEnums_lt _ _ hfound))⟩
  · obtain ⟨hgrows, e, he, hname⟩ :=
      grows_of_declareEnum hn (Or.inl ⟨owner, field, rfl⟩) hdeclared
    have hlt := (List.getElem?_eq_some_iff.1 he).1
    refine ⟨⟨⟨hgrows.sound.enums_nodup, hgrows.sound.enum_claimed,
        hgrows.sound.indexed.cons_fieldEnums _ hlt⟩,
      ⟨hgrows.extended.functions, hgrows.extended.types, hgrows.extended.enums⟩⟩, ?_⟩
    rw [← hname]
    exact List.mem_map_of_mem (List.mem_of_getElem? he)

theorem grows_of_namedEnum (hn : n.Sound components) {name name' origin : String}
    {values : List Json} (horigin : EnumOrigin components name origin)
    (h : n.namedEnum name values origin = .ok (name', next)) :
    n.Grows components next ∧ name ∈ next.enums.map Enumeration.name := by
  obtain ⟨-, i, hdeclared⟩ := namedEnum_eq_ok h
  obtain ⟨hgrows, e, he, hname⟩ := grows_of_declareEnum hn horigin hdeclared
  rw [← hname]
  exact ⟨hgrows, List.mem_map_of_mem (List.mem_of_getElem? he)⟩

end Names

end TypedClient.Plan
