import Mathlib.Data.List.Nodup
import TypedClient.Proofs.Plan.Closure

/-!
# Names of classes

A class name is claimed for a text that says what holds it. The texts of different kinds of holders
differ, so two classes share a name only if they have one holder (`Holder.text_inj`). Components and
variants are told apart by the names of the components. A container is held by no more than the id
of its operation, so two operations of one id get containers of one name whenever their function
names are written alike as a class name; apart from that all class names of a plan are distinct
(`nodup_classNames_iff`).
-/

namespace TypedClient.Plan

open Client (Settings)
open OpenApi (Document Operation Schema)

/-! ## Holders of class names -/

/-- What holds the name of a model class. -/
inductive Holder where
  | component (schema : String)
  | container (operationId : String)
  | variant (v : Variant) (model : String)

namespace Holder

/-- The holder of a model's name. -/
def ofOrigin : Origin → Holder
  | .component schema => .component schema
  | .queryParameters id => .container id

/-- The text that a class name is claimed for. -/
def text : Holder → String
  | .component schema => componentOrigin schema
  | .container id => queryOrigin id
  | .variant v name => v.originOf name

/-- What the text starts with. -/
def initial : Holder → Char
  | .component _ => 'c'
  | .container _ => 'q'
  | .variant _ _ => 'r'

end Holder

theorem ofOrigin_inj {a b : Origin} (h : Holder.ofOrigin a = Holder.ofOrigin b) : a = b := by
  cases a <;> cases b <;> cases h <;> rfl

theorem ofOrigin_ne_variant (origin : Origin) (v : Variant) (name : String) :
    Holder.ofOrigin origin ≠ .variant v name := by
  cases origin <;> simp [Holder.ofOrigin]

/-! ### Texts of holders -/

theorem head?_append {a : String} {c : Char} (h : a.toList.head? = some c) (b : String) :
    (a ++ b).toList.head? = some c := by
  rw [String.toList_append, List.head?_append, h]
  rfl

theorem Holder.head?_text (a : Holder) : a.text.toList.head? = some a.initial := by
  cases a with
  | component schema => exact head?_append (c := 'c') (by decide) schema
  | container id => exact head?_append (c := 'q') (by decide) id
  | variant v model =>
      have hname : v.name.toList.head? = some 'r' := by
        cases v <;> decide
      exact head?_append (head?_append hname _) model

theorem originOf_inj {v w : Variant} {a b : String} (h : v.originOf a = w.originOf b) :
    v = w ∧ a = b := by
  have hlist := congrArg String.toList h
  simp only [Variant.originOf, String.toList_append, List.append_assoc] at hlist
  have hspace : ∀ v : Variant, ' ' ∉ v.name.toList := by
    intro v
    cases v <;> decide
  have hname := String.toList_inj.1 (append_cons_inj (hspace v) (hspace w) hlist).1
  have hvw : v = w := by
    cases v <;> cases w <;> first | rfl | exact absurd hname (by decide)
  subst hvw
  exact ⟨rfl, (String.append_right_inj _).1 h⟩

/-- Different holders have different texts. -/
theorem Holder.text_inj {a b : Holder} (h : a.text = b.text) : a = b := by
  have hinitial : a.initial = b.initial := by
    have hhead := head?_text a
    rw [h, head?_text b] at hhead
    exact (Option.some.inj hhead).symm
  cases a with
  | component component =>
      cases b with
      | component component' => rw [(String.append_right_inj _).1 h]
      | _ => exact absurd hinitial (by simp [initial])
  | container id =>
      cases b with
      | container id' => rw [(String.append_right_inj _).1 h]
      | _ => exact absurd hinitial (by simp [initial])
  | variant v model =>
      cases b with
      | variant v' model' =>
          obtain ⟨rfl, rfl⟩ := originOf_inj h
          rfl
      | _ => exact absurd hinitial (by simp [initial])

/-- No class of a model has the text of a field's enumeration. -/
theorem Holder.text_ne_enum (a : Holder) (text : String) : a.text ≠ "enum " ++ text := by
  intro h
  have hhead := head?_text a
  rw [h, head?_append (c := 'e') (by decide)] at hhead
  cases a <;> exact absurd hhead (by simp [initial])

/-! ## Classes of a plan -/

/-- The classes that take the place of a model, with what holds their names. -/
def Model.claims (m : Model) : List (String × Holder) :=
  if m.isDirected then
    [(Variant.request.nameOf m.name, .variant .request m.name),
      (Variant.response.nameOf m.name, .variant .response m.name)]
  else [(m.name, .ofOrigin m.origin)]

section Claims

variable {models : List Model} {m : Model}

theorem claims_of_directed (h : m.isDirected = true) :
    m.claims = [(Variant.request.nameOf m.name, .variant .request m.name),
      (Variant.response.nameOf m.name, .variant .response m.name)] := by
  rw [Model.claims, if_pos h]

theorem claims_of_undirected (h : m.isDirected = false) :
    m.claims = [(m.name, .ofOrigin m.origin)] := by
  rw [Model.claims, if_neg (by simp [h])]

theorem map_fst_claims (m : Model) : m.claims.map Prod.fst = m.variants.map Model.name := by
  cases hdirected : m.isDirected with
  | true =>
      rw [claims_of_directed hdirected, Model.variants_of_directed hdirected]
      rfl
  | false =>
      rw [claims_of_undirected hdirected, Model.variants_of_undirected hdirected]
      rfl

/-- The names of the drafted models are those that are claimed. -/
theorem map_name_splitOf_eq_claims (models : List Model) :
    (splitOf models).map Model.name = (models.flatMap Model.claims).map Prod.fst := by
  rw [map_name_splitOf, List.map_flatMap, List.map_flatMap]
  simp only [map_fst_claims]

theorem holder_of_mem_claims {c : String × Holder} (h : c ∈ m.claims) :
    c.2 = .ofOrigin m.origin ∨ ∃ v, c.2 = .variant v m.name := by
  cases hdirected : m.isDirected with
  | true =>
      rw [claims_of_directed hdirected] at h
      rcases List.mem_cons.1 h with rfl | h
      · exact Or.inr ⟨.request, rfl⟩
      · rw [List.mem_singleton.1 h]
        exact Or.inr ⟨.response, rfl⟩
  | false =>
      rw [claims_of_undirected hdirected] at h
      rw [List.mem_singleton.1 h]
      exact Or.inl rfl

theorem nodup_claims (m : Model) : m.claims.Nodup := by
  cases hdirected : m.isDirected with
  | true =>
      rw [claims_of_directed hdirected]
      simp
  | false =>
      rw [claims_of_undirected hdirected]
      exact List.nodup_singleton _

end Claims

section Drafts

variable {d : Document} {s : Settings} {base : List Model} {made : List (Call × Option Model)}
  {n : Names}

/-- The operations that get a container for query parameters. -/
def queried (d : Document) (s : Settings) : List Operation :=
  (allowed s.filter d.operations).filter hasQuery

/-- The containers are claimed for the ids of their operations. -/
theorem flatMap_claims_containers {components : Components} {operations : List Operation}
    (h : List.Forall₂ (fun o r => components.Called o r n) operations made) :
    (made.filterMap Prod.snd).flatMap Model.claims =
      (operations.filter hasQuery).map fun o =>
        (containerName o, Holder.container (operationId o)) := by
  induction h with
  | nil => rfl
  | @cons o r operations made hr _ ih =>
      obtain ⟨c, query⟩ := r
      cases query with
      | none =>
          have hquery : hasQuery o = false := by simpa using hr.isSome_iff
          rw [List.filter_cons_of_neg (by simp [hquery])]
          exact ih
      | some m =>
          have hquery : hasQuery o = true := hr.isSome_iff.1 rfl
          have hm := hr.container m rfl
          rw [List.filter_cons_of_pos hquery, List.map_cons, ← ih, ← hm.name_eq]
          simp only [List.filterMap_cons, List.flatMap_cons]
          rw [claims_of_undirected hm.undirected, hm.origin_eq]
          rfl

namespace Drafted

/-- Every class of the draft has claimed its name. -/
theorem lookup_of_mem_claims (h : Drafted d s base made n) {m : Model}
    (hm : m ∈ allModels base made) {c : String × Holder} (hc : c ∈ m.claims) :
    n.types.lookup c.1 = some c.2.text := by
  cases hdirected : m.isDirected with
  | true =>
      have hclaimed := h.variantsClaimed m hm hdirected
      rw [claims_of_directed hdirected] at hc
      rcases List.mem_cons.1 hc with rfl | hc
      · exact hclaimed .request
      · rw [List.mem_singleton.1 hc]
        exact hclaimed .response
  | false =>
      rw [claims_of_undirected hdirected] at hc
      rw [List.mem_singleton.1 hc]
      rcases h.component_or_container hm with ⟨component, schema, -, -, hof⟩ | ⟨o, -, hcontainer⟩
      · rw [hof.origin_eq]
        exact hof.claimed
      · rw [hcontainer.origin_eq]
        exact hcontainer.claimed

/-- Class names are distinct if the classes are: no two of them hold one name. -/
theorem nodup_names_iff (h : Drafted d s base made n) :
    (((allModels base made).flatMap Model.claims).map Prod.fst).Nodup ↔
      ((allModels base made).flatMap Model.claims).Nodup := by
  have hlookup : ∀ c ∈ (allModels base made).flatMap Model.claims,
      n.types.lookup c.1 = some c.2.text := by
    intro c hc
    obtain ⟨m, hm, hc⟩ := List.mem_flatMap.1 hc
    exact h.lookup_of_mem_claims hm hc
  rw [← List.map_id' ((allModels base made).flatMap Model.claims), List.map_map]
  apply nodup_map_iff_nodup_map
  intro c hc c' hc'
  constructor
  · intro hname
    have hname : c.1 = c'.1 := hname
    have htext := hlookup c hc
    rw [hname, hlookup c' hc'] at htext
    exact Prod.ext hname (Holder.text_inj (Option.some.inj htext)).symm
  · intro heq
    have heq : c = c' := heq
    rw [heq]

/-- Models of components have distinct origins. -/
theorem nodup_origins (h : Drafted d s base made n) (hkeys : (d.schemas.map Prod.fst).Nodup) :
    (base.map Model.origin).Nodup := by
  have hall := hkeys.map (f := Origin.component) fun a b hab => by
    cases hab
    rfl
  rw [List.map_map] at hall
  exact h.modelled.origins.nodup hall

/-- Two models of components are the same if their names are. -/
theorem eq_of_name_eq (h : Drafted d s base made n) (hkeys : (d.schemas.map Prod.fst).Nodup)
    {m m' : Model} (hm : m ∈ base) (hm' : m' ∈ base) (heq : m.name = m'.name) : m = m' := by
  obtain ⟨component, schema, -, -, hof⟩ := h.modelled.ofComponent m hm
  obtain ⟨component', schema', -, -, hof'⟩ := h.modelled.ofComponent m' hm'
  have hclaimed := hof.claimed
  rw [heq, hof'.claimed] at hclaimed
  have hcomponent := (String.append_right_inj _).1 (Option.some.inj hclaimed)
  apply List.inj_on_of_nodup_map (h.nodup_origins hkeys) hm hm'
  rw [hof.origin_eq, hof'.origin_eq, hcomponent]

/-- The classes of the components are distinct. -/
theorem nodup_claims_base (h : Drafted d s base made n)
    (hkeys : (d.schemas.map Prod.fst).Nodup) : (base.flatMap Model.claims).Nodup := by
  have horigins := h.nodup_origins hkeys
  rw [List.nodup_flatMap]
  refine ⟨fun m _ => nodup_claims m, (horigins.of_map).imp_of_mem ?_⟩
  intro m m' hm hm' hne c hc hc'
  apply hne
  -- The holder tells the model: by its origin if the model stays, else by its name.
  rcases holder_of_mem_claims hc with hholder | ⟨v, hholder⟩
  · rcases holder_of_mem_claims hc' with hholder' | ⟨v', hholder'⟩
    · rw [hholder] at hholder'
      exact List.inj_on_of_nodup_map horigins hm hm' (ofOrigin_inj hholder')
    · rw [hholder] at hholder'
      exact absurd hholder' (ofOrigin_ne_variant _ _ _)
  · rcases holder_of_mem_claims hc' with hholder' | ⟨v', hholder'⟩
    · rw [hholder'] at hholder
      exact absurd hholder (ofOrigin_ne_variant _ _ _)
    · rw [hholder] at hholder'
      injection hholder' with _ hname
      exact h.eq_of_name_eq hkeys hm hm' hname

/-- The classes of the draft are distinct exactly if the containers are. -/
theorem nodup_claims_iff (h : Drafted d s base made n)
    (hkeys : (d.schemas.map Prod.fst).Nodup) :
    ((allModels base made).flatMap Model.claims).Nodup ↔
      ((queried d s).map fun o => (operationId o, containerName o)).Nodup := by
  have hcontainers : ((queried d s).map fun o => (operationId o, containerName o)).Nodup ↔
      ((made.filterMap Prod.snd).flatMap Model.claims).Nodup := by
    rw [flatMap_claims_containers h.called]
    apply nodup_map_iff_nodup_map
    intro o _ o' _
    simp only [Prod.mk.injEq, Holder.container.injEq]
    exact and_comm
  rw [hcontainers, allModels, List.flatMap_append, List.nodup_append']
  constructor
  · rintro ⟨-, hnodup, -⟩
    exact hnodup
  · intro hnodup
    refine ⟨h.nodup_claims_base hkeys, hnodup, ?_⟩
    -- No component holds a container.
    intro c hc hc'
    rw [flatMap_claims_containers h.called] at hc'
    obtain ⟨o, -, rfl⟩ := List.mem_map.1 hc'
    obtain ⟨m, hm, hc⟩ := List.mem_flatMap.1 hc
    obtain ⟨component, schema, -, -, hof⟩ := h.modelled.ofComponent m hm
    rcases holder_of_mem_claims hc with hholder | ⟨v, hholder⟩
    · rw [hof.origin_eq] at hholder
      cases hholder
    · cases hholder

/-- A model that comes from a component is what the component stands for. -/
theorem target_of_origin (h : Drafted d s base made n) {m : Model}
    (hm : m ∈ allModels base made) {component : String}
    (horigin : m.origin = .component component) :
    ∃ schema, (component, schema) ∈ d.schemas ∧
      Target.ofComponent component schema = .model m.name := by
  rcases h.component_or_container hm with
    ⟨component', schema, hmem, htarget, hof⟩ | ⟨o, -, hcontainer⟩
  · rw [hof.origin_eq] at horigin
    cases horigin
    exact ⟨schema, hmem, htarget⟩
  · rw [hcontainer.origin_eq] at horigin
    cases horigin

/-- No enumeration has the name of a model. -/
theorem disjoint_enums (h : Drafted d s base made n) (hkeys : (d.schemas.map Prod.fst).Nodup) :
    (((allModels base made).flatMap Model.claims).map Prod.fst).Disjoint
      (n.enums.map Enumeration.name) := by
  intro name hname henum
  obtain ⟨c, hc, rfl⟩ := List.mem_map.1 hname
  obtain ⟨m, hm, hc⟩ := List.mem_flatMap.1 hc
  obtain ⟨origin, horigin, henum⟩ := h.sound.enum_claimed c.1 henum
  have htext : c.2.text = origin := by
    have hlookup := h.lookup_of_mem_claims hm hc
    rw [horigin] at hlookup
    exact (Option.some.inj hlookup).symm
  rcases henum with ⟨owner, field, rfl⟩ | ⟨component, schema, hmem, htarget, rfl⟩
  · rw [String.append_assoc, String.append_assoc] at htext
    exact Holder.text_ne_enum c.2 _ htext
  · have hholder : c.2 = .component component := Holder.text_inj htext
    have horigin : m.origin = .component component := by
      rcases holder_of_mem_claims hc with hmodel | ⟨v, hmodel⟩
      · rw [hholder] at hmodel
        exact (ofOrigin_inj (a := .component component) hmodel).symm
      · rw [hholder] at hmodel
        cases hmodel
    obtain ⟨schema', hmem', htarget'⟩ := h.target_of_origin hm horigin
    have hsame := List.inj_on_of_nodup_map hkeys hmem hmem' rfl
    cases hsame
    rw [htarget] at htarget'
    cases htarget'

end Drafted

end Drafts

/-- Components are the members of an object, so their names are distinct. Then the class names of a
plan are distinct exactly if no two operations with query parameters have the same id and containers
of the same name. -/
theorem nodup_classNames_iff (d : Document) (s : Settings) (p : TypedClient.Plan)
    (hkeys : (d.schemas.map Prod.fst).Nodup) (h : build d s = .ok p) :
    (p.models.map Model.name ++ p.enums.map Enumeration.name).Nodup ↔
      (((allowed s.filter d.operations).filter hasQuery).map fun o =>
        (operationId o, containerName o)).Nodup := by
  obtain ⟨base, made, n, hdrafted, hmodels, -, henums, -⟩ := build_eq_ok h
  have hperm : (p.models.map Model.name).Perm
      (((allModels base made).flatMap Model.claims).map Prod.fst) := by
    rw [hmodels, map_name_orderModels, ← map_name_splitOf_eq_claims]
    exact (arrange_perm _).map Model.name
  rw [(hperm.append_right _).nodup_iff, henums, List.nodup_append',
    hdrafted.nodup_names_iff, hdrafted.nodup_claims_iff hkeys]
  constructor
  · rintro ⟨hnodup, -, -⟩
    exact hnodup
  · intro hnodup
    exact ⟨hnodup, hdrafted.sound.enums_nodup, hdrafted.disjoint_enums hkeys⟩

theorem nodup_classNames_iff_shop : (shop.schemas.map Prod.fst).Nodup ∧ ∃ p,
    build shop {} = .ok p ∧ (p.models.map Model.name ++ p.enums.map Enumeration.name).Nodup := by
  have hkeys : (shop.schemas.map Prod.fst).Nodup := by decide
  have hbuilds : builds shop {} (fun _ => true) = true := by decide +kernel
  obtain ⟨p, hp, -⟩ := exists_of_builds hbuilds
  exact ⟨hkeys, p, hp, (nodup_classNames_iff shop {} p hkeys hp).2 (by decide +kernel)⟩

/-- A path whose operation has the given tag, the id `x` and one query parameter. -/
def taggedQuery (tag : String) : Json := .object [("get", .object [
  ("tags", .array [.string tag]),
  ("operationId", .string "x"),
  ("parameters", .array [.object [
    ("name", .string "x"),
    ("in", .string "query"),
    ("schema", .object [("type", .string "string")])]]),
  ("responses", .object [])])]

/-- Two operations of one id, whose tags differ in an underscore alone. -/
def oneIdTwice : Json := .object [
  ("openapi", .string "3.0.0"),
  ("paths", .object [("/a", taggedQuery "t"), ("/b", taggedQuery "t_")]),
  ("components", .object [("schemas", .object [])])]

theorem classNames_oneIdTwice :
    ∃ d p, Document.ofJson oneIdTwice = .ok d ∧ build d {} = .ok p ∧
      p.models.map Model.name = ["TGetXQuery", "TGetXQuery"] ∧
      ¬(p.models.map Model.name ++ p.enums.map Enumeration.name).Nodup := by
  have hgenerates : generates oneIdTwice {} (fun p =>
      p.models.map Model.name == ["TGetXQuery", "TGetXQuery"]) = true := by decide +kernel
  obtain ⟨d, p, hd, hp, hnames⟩ := exists_of_generates hgenerates
  have hnames := eq_of_beq hnames
  refine ⟨d, p, hd, hp, hnames, ?_⟩
  rw [hnames]
  simp

end TypedClient.Plan
