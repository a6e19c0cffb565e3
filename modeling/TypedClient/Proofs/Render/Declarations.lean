import Mathlib.Tactic.Common
import TypedClient.Render.Classes

/-!
# Declarations of fields

A declaration ends in what is assigned to the field (`Assignment`): the default `None` or the marker
`...` of a field that has to be there, and the name in messages where the identifier is another. The
written form tells all of this (`Assignment.text_inj`), so the declaration of a field from a
component says whether the field may be left out and what it is called (`fieldDeclaration_eq_iff`).
-/

namespace TypedClient

namespace Lexical

/-! ## Literals -/

theorem escapeChar_append_inj {c d : Char} {cs ds : List Char}
    (h : escapeChar c ++ cs = escapeChar d ++ ds) : c = d ∧ cs = ds := by
  unfold escapeChar at h
  split at h <;> split at h <;> grind

theorem escapeText_inj {cs ds : List Char} (h : escapeText cs = escapeText ds) : cs = ds := by
  have hne : ∀ c, escapeChar c ≠ [] := by
    intro c
    unfold escapeChar
    split <;> simp
  induction cs generalizing ds with
  | nil =>
      cases ds with
      | nil => rfl
      | cons d ds =>
          rw [escapeText_nil, escapeText_cons] at h
          exact absurd (List.append_eq_nil_iff.1 h.symm).1 (hne d)
  | cons c cs ih =>
      cases ds with
      | nil =>
          rw [escapeText_nil, escapeText_cons] at h
          exact absurd (List.append_eq_nil_iff.1 h).1 (hne c)
      | cons d ds =>
          obtain ⟨rfl, hrest⟩ := escapeChar_append_inj h
          rw [ih hrest]

theorem quote_inj {s t : String} (h : quote s = quote t) : s = t := by
  have hlist := congrArg String.toList h
  rw [toList_quote, toList_quote, List.cons_append, List.cons_append, List.cons.injEq] at hlist
  exact String.toList_inj.1 (escapeText_inj (List.append_cancel_right hlist.2))

end Lexical

namespace Render

open Plan

/-! ## Assignments -/

/-- What stands for the value of a field in its declaration. -/
inductive Marker where
  /-- The field is `None` unless it is given. -/
  | none
  /-- The field has to be given. -/
  | required
  deriving DecidableEq

/-- What a declaration assigns to its field. -/
structure Assignment where
  marker : Marker
  /-- The name in messages, if the identifier is another. -/
  alias? : Option String

namespace Assignment

/-- The written form. A call of `Field` is left out where the default alone says everything. -/
def text : Assignment → String
  | ⟨.none, none⟩ => " = None"
  | ⟨.none, some name⟩ => " = Field(None, alias=" ++ Lexical.quote name ++ ")"
  | ⟨.required, none⟩ => " = Field(...)"
  | ⟨.required, some name⟩ => " = Field(..., alias=" ++ Lexical.quote name ++ ")"

/-- The assignment that fits a field. -/
def ofField (f : Field) : Assignment where
  marker := if f.optional then .none else .required
  alias? := if f.name = f.wireName then none else some f.wireName

theorem marker_ofField (f : Field) : (ofField f).marker = .none ↔ f.optional = true := by
  unfold ofField
  cases f.optional <;> simp

theorem alias?_ofField (f : Field) (name : String) :
    (ofField f).alias? = some name ↔ f.name ≠ f.wireName ∧ name = f.wireName := by
  unfold ofField
  by_cases hname : f.name = f.wireName
  · simp [hname]
  · simp [hname, eq_comm]

/-- An assignment fits a field if it leaves out what may be left out and renames what has another
name in messages. -/
theorem eq_ofField_iff (a : Assignment) (f : Field) :
    a = .ofField f ↔ (a.marker = .none ↔ f.optional = true) ∧
      ∀ name, a.alias? = some name ↔ f.name ≠ f.wireName ∧ name = f.wireName := by
  constructor
  · rintro rfl
    exact ⟨marker_ofField f, alias?_ofField f⟩
  · rintro ⟨hmarker, halias⟩
    have hsame : a.marker = (ofField f).marker := by
      rw [← marker_ofField] at hmarker
      cases ha : a.marker <;> cases hf : (ofField f).marker <;> simp_all
    have halias : a.alias? = (ofField f).alias? := by
      apply Option.ext
      intro name
      rw [halias, alias?_ofField]
    obtain ⟨marker, alias?⟩ := a
    exact congrArg₂ Assignment.mk hsame halias

def mark : Assignment → Option Char
  | ⟨.none, none⟩ => none
  | ⟨.none, some _⟩ => some 'e'
  | ⟨.required, none⟩ => some ')'
  | ⟨.required, some _⟩ => some ','

theorem getElem?_append_of_eq_some {start : String} {i : Nat} {c : Char}
    (h : start.toList[i]? = some c) (rest : String) : (start ++ rest).toList[i]? = some c := by
  rw [String.toList_append, List.getElem?_append_left (List.getElem?_eq_some_iff.1 h).1, h]

/-- The thirteenth character tells the written forms apart. -/
theorem getElem?_text (a : Assignment) : a.text.toList[12]? = a.mark := by
  have hnone : " = Field(None, alias=".toList[12]? = some 'e' := by decide
  have hrequired : " = Field(..., alias=".toList[12]? = some ',' := by decide
  cases a with
  | mk marker alias? =>
      cases marker <;> cases alias?
      · decide
      · exact getElem?_append_of_eq_some (getElem?_append_of_eq_some hnone _) _
      · decide
      · exact getElem?_append_of_eq_some (getElem?_append_of_eq_some hrequired _) _

theorem quote_inj_between {start stop s t : String}
    (h : start ++ Lexical.quote s ++ stop = start ++ Lexical.quote t ++ stop) : s = t :=
  Lexical.quote_inj ((String.append_right_inj start).1 ((String.append_left_inj stop).1 h))

/-- The written form tells the assignment. -/
theorem text_inj {a b : Assignment} (h : a.text = b.text) : a = b := by
  have hmark : a.mark = b.mark := by rw [← getElem?_text, h, getElem?_text]
  obtain ⟨_ | _, _ | name⟩ := a <;> obtain ⟨_ | _, _ | name'⟩ := b
  case none.none.none.none | required.none.required.none => rfl
  case none.some.none.some | required.some.required.some =>
    rw [quote_inj_between h]
  all_goals exact absurd hmark (by simp [mark])

end Assignment

/-! ## Declarations -/

section Declaration

variable {m : Model}

theorem fieldHint_of_component (h : m.origin.isComponent = true) (f : Field) :
    fieldHint m f = "Optional[" ++ kindHint f.kind ++ "]" := by
  have hwrapped : isWrapped m f = true := by rw [isWrapped, h, Bool.or_true]
  rw [fieldHint, if_pos hwrapped, optional]

theorem fieldDefault_of_component (h : m.origin.isComponent = true) (f : Field) :
    fieldDefault m f = (Assignment.ofField f).text := by
  have hcall : usesFieldCall m f = (f.needsAlias || !f.optional) := by
    rw [usesFieldCall, isWrapped, h, Bool.or_true, Bool.true_and]
  have hnone : " = Field(None" ++ ", alias=" = " = Field(None, alias=" := by decide
  have hrequired : " = Field(..." ++ ", alias=" = " = Field(..., alias=" := by decide
  unfold fieldDefault aliasArgument Assignment.ofField
  rw [hcall]
  by_cases hname : f.name = f.wireName
  · have halias : f.needsAlias = false := by rw [Field.needsAlias, hname, bne_self_eq_false]
    rw [if_pos hname, halias]
    cases f.optional
    · change " = Field(..." ++ "" ++ ")" = " = Field(...)"
      decide
    · rfl
  · have halias : f.needsAlias = true := bne_iff_ne.2 hname
    rw [if_neg hname, halias]
    cases f.optional
    · change " = Field(..." ++ (", alias=" ++ Lexical.quote f.wireName) ++ ")" =
        " = Field(..., alias=" ++ Lexical.quote f.wireName ++ ")"
      rw [← String.append_assoc, hrequired]
    · change " = Field(None" ++ (", alias=" ++ Lexical.quote f.wireName) ++ ")" =
        " = Field(None, alias=" ++ Lexical.quote f.wireName ++ ")"
      rw [← String.append_assoc, hnone]

/-- The declaration of a field from a component allows `None`, and it has an assignment exactly if
that fits the field. -/
theorem fieldDeclaration_eq_iff (h : m.origin.isComponent = true) (f : Field) (a : Assignment) :
    fieldDeclaration m f = f.name ++ ": Optional[" ++ kindHint f.kind ++ "]" ++ a.text ↔
      a = .ofField f := by
  have heq : fieldDeclaration m f =
      f.name ++ ": Optional[" ++ kindHint f.kind ++ "]" ++ (Assignment.ofField f).text := by
    have hopen : ": " ++ "Optional[" = ": Optional[" := by decide
    rw [fieldDeclaration, fieldHint_of_component h, fieldDefault_of_component h, ← hopen]
    simp only [String.append_assoc]
  rw [heq, String.append_right_inj]
  exact ⟨fun htext => (Assignment.text_inj htext).symm, fun ha => by rw [ha]⟩

end Declaration

end Render

end TypedClient
