import TypedClient.Plan.Build
import TypedClient.Proofs.Names.Enumerations
import TypedClient.Proofs.Plan.Calls

/-!
# Where enumerations come from

Every enumeration of a plan stands for a component or for a field that lists its values in place,
inside lists and behind aliases too (`exists_source_of_build`). `Declares` says which names a stage
may give to enumerations; a stage that is put together from others gives no more names than these.
-/

namespace TypedClient.Plan

open Client (Mode Settings)
open OpenApi (Document Operation Parameter Schema)
open Claiming

/-! ## Names that a stage declares -/

/-- The stage declares no enumerations but those whose names satisfy `P`. -/
def Declares {α : Type} (P : String → Prop) (m : Claiming α) : Prop :=
  ∀ (n : Names) (a : α) (next : Names), m n = .ok (a, next) →
    ∀ e ∈ next.enums, e ∈ n.enums ∨ P e.name

section Declares

variable {α β : Type} {P Q : String → Prop} {m : Claiming α}

theorem Declares.mono (h : Declares P m) (hPQ : ∀ name, P name → Q name) : Declares Q m :=
  fun n a next hm e he => (h n a next hm e he).imp_right (hPQ e.name)

theorem declares_of_enums_eq
    (h : ∀ n a next, m n = .ok (a, next) → next.enums = n.enums) : Declares P m := by
  intro n a next hm e he
  rw [h n a next hm] at he
  exact Or.inl he

theorem declares_pure (a : α) : Declares P (pure a) :=
  declares_of_enums_eq fun _ _ _ h => by rw [(pure_eq_ok h).2]

theorem declares_throw (e : GenerationError) : Declares P (throw e : Claiming α) :=
  declares_of_enums_eq fun _ _ _ h => by cases h

theorem declares_lift (x : Except GenerationError α) : Declares P (liftM x : Claiming α) :=
  declares_of_enums_eq fun _ _ _ h => by rw [(lift_eq_ok h).2]

theorem declares_bind {f : α → Claiming β} (hm : Declares P m) (hf : ∀ a, Declares P (f a)) :
    Declares P (m >>= f) := by
  intro n b last h e he
  obtain ⟨a, middle, ha, hb⟩ := bind_eq_ok h
  rcases hf a middle b last hb e he with he | he
  · exact hm n a middle ha e he
  · exact Or.inr he

theorem declares_map (hm : Declares P m) (f : α → β) : Declares P (f <$> m) := by
  rw [map_eq_pure_bind]
  exact declares_bind hm fun a => declares_pure (f a)

theorem declares_mapM {f : α → Claiming β} {xs : List α} (hf : ∀ x ∈ xs, Declares P (f x)) :
    Declares P (xs.mapM f) := by
  induction xs with
  | nil => exact declares_pure []
  | cons x xs ih =>
      rw [List.mapM_cons]
      refine declares_bind (hf x List.mem_cons_self) fun y => declares_bind ?_ fun ys => ?_
      · exact ih fun x' hx' => hf x' (List.mem_cons_of_mem x hx')
      · exact declares_pure _

theorem declares_claimType (name origin : String) : Declares P (claimType name origin) := by
  refine declares_of_enums_eq fun n u next h => ?_
  obtain ⟨types, -, rfl⟩ := Names.claimType_eq_ok (Claiming.claimType_eq_ok h)
  rfl

theorem declares_claimFunction (name origin : String) :
    Declares P (claimFunction name origin) := by
  refine declares_of_enums_eq fun n u next h => ?_
  obtain ⟨functions, -, rfl⟩ := Names.claimFunction_eq_ok (Claiming.claimFunction_eq_ok h)
  rfl

theorem mem_enums_of_declareEnum {n next : Names} {name origin : String} {values : List Json}
    {i : Nat} (h : n.declareEnum name values origin = .ok (i, next)) {e : Enumeration}
    (he : e ∈ next.enums) : e ∈ n.enums ∨ e.name = name := by
  rcases Names.declareEnum_eq_ok h with ⟨-, -, rfl⟩ | ⟨-, -, types, -, rfl⟩
  · exact Or.inl he
  · rcases List.mem_append.1 he with he | he
    · exact Or.inl he
    · rw [List.mem_singleton.1 he]
      exact Or.inr rfl

theorem declares_namedEnum (name : String) (values : List Json) (origin : String) :
    Declares (· = name) (withNames fun n => n.namedEnum name values origin) := by
  intro n name' next h e he
  obtain ⟨-, i, hdeclared⟩ := Names.namedEnum_eq_ok (withNames_eq_ok h)
  exact mem_enums_of_declareEnum hdeclared he

theorem declares_fieldEnum (owner field : String) (values : List Json) :
    Declares (· = Naming.enumName owner field)
      (withNames fun n => n.fieldEnum owner field values) := by
  intro n name next h e he
  rcases Names.fieldEnum_eq_ok (withNames_eq_ok h) with
    ⟨-, -, -, rfl⟩ | ⟨-, rfl, i, declared, hdeclared, rfl⟩
  · exact Or.inl he
  · exact mem_enums_of_declareEnum hdeclared he

end Declares

/-! ## Fields -/

section Fields

variable {components : Components} (owner field : String)

theorem declares_textKind (s : Schema) :
    Declares (· = Naming.enumName owner field) (textKind owner field s) := by
  unfold textKind
  split
  · exact declares_pure _
  · split
    · exact declares_pure _
    · split
      · exact declares_pure _
      · exact declares_bind (declares_fieldEnum owner field _) fun _ => declares_pure _

theorem declares_inlineKind {follow : String → Claiming Kind}
    (hfollow : ∀ reference, Declares (· = Naming.enumName owner field) (follow reference))
    (s : Schema) :
    Declares (· = Naming.enumName owner field) (inlineKind follow owner field s) := by
  fun_induction inlineKind follow owner field s with
  | case1 => exact declares_throw _
  | case2 s => exact declares_textKind owner field s
  | case3 => exact declares_pure _
  | case4 _ _ _ _ _ _ reference => exact declares_map (hfollow reference) _
  | case5 => exact declares_pure _
  | case6 _ _ _ _ _ _ _ _ _ ih => exact declares_map ih _
  | case7 => exact declares_lift _

/-- A reference declares the enumeration of its field, however many aliases it goes through. -/
theorem declares_referenceKind (looks aliases : Nat) (reference : String) :
    Declares (· = Naming.enumName owner field)
      (referenceKind components owner field looks aliases reference) := by
  induction looks generalizing aliases reference with
  | zero => exact declares_throw _
  | succ looks ih =>
      unfold referenceKind
      split
      · exact declares_throw _
      · refine declares_bind (declares_lift _) fun t => ?_
        split
        · exact declares_pure _
        · exact declares_pure _
        · split
          · exact ih _ _
          · exact declares_inlineKind owner field (ih 0) _

theorem declares_property (s : Schema) :
    Declares (· = Naming.enumName owner field) (components.property owner field s) := by
  unfold Components.property
  split
  · refine declares_bind (declares_lift _) fun _ => declares_bind ?_ fun _ => declares_pure _
    exact declares_referenceKind owner field _ 0 _
  · refine declares_bind ?_ fun _ => declares_pure _
    exact declares_inlineKind owner field (declares_referenceKind owner field _ 0) s

end Fields

/-! ## Components and calls -/

/-- The field of a class: a property of an object component, or a query parameter of an operation
that becomes a call. -/
inductive FieldOf (d : Document) (s : Settings) : (owner field : String) → Prop where
  | property {component owner field : String} {schema : Schema}
      (hschema : (component, schema) ∈ d.schemas)
      (howner : Target.ofComponent component schema = .model owner)
      (hfield : field ∈ (schema.properties.getD []).map Prod.fst) : FieldOf d s owner field
  | parameter {o : Operation} {p : Parameter} (ho : o ∈ allowed s.filter d.operations)
      (hp : p ∈ o.parameters) (hquery : p.location = .query) :
      FieldOf d s (containerName o) p.name

/-- What the name of an enumeration comes from: a component or a field. -/
def EnumSource (d : Document) (s : Settings) (name : String) : Prop :=
  Components.Has d.schemas (.enumeration name) ∨
    ∃ owner field, FieldOf d s owner field ∧ name = Naming.enumName owner field

section Sources

variable {d : Document} {s : Settings}

theorem declares_model {name component : String} {schema : Schema}
    (hmem : (component, schema) ∈ d.schemas)
    (htarget : Target.ofComponent component schema = .model name) :
    Declares (EnumSource d s) (Components.model d.schemas name component schema) := by
  refine declares_bind (declares_mapM fun x hx => ?_) fun _ => declares_pure _
  refine declares_bind ?_ fun _ => declares_pure _
  refine (declares_property name x.1 x.2).mono ?_
  rintro _ rfl
  exact Or.inr ⟨name, x.1, .property hmem htarget (List.mem_map_of_mem hx), rfl⟩

theorem declares_declare {component : String} {schema : Schema}
    (hmem : (component, schema) ∈ d.schemas) :
    Declares (EnumSource d s) (Components.declare d.schemas component schema) := by
  unfold Components.declare
  split
  · next name htarget =>
      refine declares_bind (declares_claimType _ _) fun _ => declares_bind ?_ fun _ =>
        declares_pure _
      exact declares_model hmem htarget
  · next name htarget =>
      refine declares_bind (declares_claimType _ _) fun _ => declares_bind ?_ fun _ =>
        declares_pure _
      refine (declares_namedEnum name _ _).mono ?_
      rintro _ rfl
      exact Or.inl ⟨component, schema, hmem, htarget⟩
  · exact declares_pure _

theorem declares_argument? {o : Operation} (ho : o ∈ allowed s.filter d.operations) {p : Parameter}
    (hp : p ∈ o.parameters) :
    Declares (EnumSource d s) (Components.argument? d.schemas (containerName o) p) := by
  unfold Components.argument?
  split
  · exact declares_bind (declares_lift _) fun _ => declares_pure _
  · next hquery =>
      refine declares_bind ?_ fun _ => declares_pure _
      unfold Components.queryField
      split
      · next schema _ =>
          refine declares_bind ?_ fun _ => declares_pure _
          refine (declares_property (containerName o) p.name schema).mono ?_
          rintro _ rfl
          exact Or.inr ⟨containerName o, p.name, .parameter ho hp hquery, rfl⟩
      · exact declares_bind (declares_pure _) fun _ => declares_pure _
  · exact declares_pure _
  · exact declares_pure _

theorem declares_queryModel? {P : String → Prop} (name operationId : String)
    (fields : List Field) : Declares P (queryModel? name operationId fields) := by
  unfold queryModel?
  split
  · exact declares_pure _
  · exact declares_bind (declares_claimType _ _) fun _ => declares_pure _

theorem declares_call {o : Operation} (ho : o ∈ allowed s.filter d.operations) (mode : Mode) :
    Declares (EnumSource d s) (Components.call d.schemas mode o) := by
  refine declares_bind (declares_claimFunction _ _) fun _ => ?_
  refine declares_bind (declares_mapM fun p hp => declares_argument? ho hp) fun _ => ?_
  refine declares_bind (declares_queryModel? _ _ _) fun _ => ?_
  refine declares_bind (declares_lift _) fun _ => ?_
  exact declares_bind (declares_lift _) fun _ => declares_pure _

theorem declares_splitModels {P : String → Prop} (models : List Model) :
    Declares P (splitModels models) := by
  refine declares_bind (declares_mapM fun m _ => ?_) fun _ => declares_pure _
  unfold expandModel
  split
  · refine declares_bind ?_ fun _ => declares_bind ?_ fun _ => declares_pure _
    all_goals exact declares_bind (declares_claimType _ _) fun _ => declares_pure _
  · exact declares_pure _

theorem declares_draft (d : Document) (s : Settings) :
    Declares (EnumSource d s) (draft d s) := by
  refine declares_bind (declares_bind (declares_mapM fun c hc => ?_) fun _ => ?_) fun _ => ?_
  · exact declares_declare hc
  · exact declares_pure _
  · refine declares_bind (declares_mapM fun o ho => declares_call ho s.mode) fun _ => ?_
    exact declares_bind (declares_splitModels _) fun _ => declares_pure _

/-- Every enumeration of a plan comes from a component or from a field. -/
theorem exists_source_of_build {p : TypedClient.Plan} (h : build d s = .ok p) {e : Enumeration}
    (he : e ∈ p.enums) : EnumSource d s e.name := by
  unfold build at h
  split at h
  · cases h
  · split at h
    · cases h
    · next drafted calls n hdraft =>
        cases h
        exact (declares_draft d s {} _ n hdraft e he).resolve_left List.not_mem_nil

end Sources

end TypedClient.Plan
