import TypedClient.Proofs.Json.WrittenForm
import TypedClient.Proofs.Lexical.StringLiterals
import TypedClient.Proofs.Render.Declarations
import TypedClient.Render.Variables

/-!
# Texts of a document in generated code

Names in messages, values of enumerations, the address of the service and the paths of calls are
texts of a document, and they may hold anything. Each of them is written as a literal. A literal is
read as the text that it was written for and ends at its own closing quote, whatever stands behind
it, so what stands behind it is code that the text has no part in (`holdsLiteral_quote`). The places
where such a text is written are those of `KeepsTexts`, and a plan keeps all its texts in their
literals (`quote_spec`). Only the null character is left out, which no source text may hold.
-/

namespace TypedClient.Render

open Client (Settings)
open Lexical (escapeText quote readLiteral)
open Plan

/-- Behind `before`, the text has a literal of the value, and `after` behind that, however the
source goes on. -/
def HoldsLiteral (before value after text : List Char) : Prop :=
  ∃ source, text = before ++ source ∧
    ∀ rest, readLiteral (source ++ rest) = some (value, after ++ rest)

theorem holdsLiteral_quote {s : String} (h : '\x00' ∉ s.toList) (before after : List Char) :
    HoldsLiteral before s.toList after (before ++ ((quote s).toList ++ after)) := by
  refine ⟨_, rfl, fun rest => ?_⟩
  rw [List.append_assoc, Lexical.readLiteral_quote, if_neg h]

/-! ## Places -/

/-- What stands in front of the name in messages, in the declaration of a field that has one. -/
def aliasStart (m : Model) (f : Field) : String :=
  f.name ++ ": " ++ fieldHint m f ++
    (if f.optional then " = Field(None" else " = Field(...") ++ ", alias="

theorem fieldDeclaration_of_needsAlias (m : Model) {f : Field} (h : f.needsAlias = true) :
    fieldDeclaration m f = aliasStart m f ++ quote f.wireName ++ ")" := by
  have hcall : usesFieldCall m f = true := by rw [usesFieldCall, h, Bool.true_or]
  rw [fieldDeclaration, fieldDefault, hcall, aliasArgument, if_pos h, aliasStart]
  cases f.optional <;> simp only [String.append_assoc, if_true, Bool.false_eq_true, if_false]

/-- The text that is written for a value of an enumeration. Numbers, truth values and null are
written without quotes. -/
def quotedText? : Json → Option String
  | .string s => some s
  | .array items => some (Json.array items).text
  | .object members => some (Json.object members).text
  | _ => none

theorem literal_of_quotedText? {v : Json} {text : String} (h : quotedText? v = some text) :
    literal v = quote text := by
  cases v <;> cases h <;> rfl

/-- A value that is written without quotes opens no literal. -/
theorem quote_not_mem_literal {v : Json} (h : quotedText? v = none) : '"' ∉ (literal v).toList := by
  cases v with
  | null => decide
  | bool b => cases b <;> decide
  | number n =>
      intro hmem
      exact absurd (Json.isNumeralChar_of_mem_number hmem) (by decide)
  | string _ | array _ | object _ => cases h

/-- What stands in front of the literal in the expression for an address. -/
def pathStart (c : Call) : String := if c.shape.isTemplate then "f" else baseUrlName ++ " + "

/-- What the literal in the expression for an address stands for. A formatted literal has the name
of the constant in it. -/
def pathText (c : Call) : List Char :=
  (if c.shape.isTemplate then braced baseUrlName.toList else []) ++ c.urlTemplate.toList

theorem toList_urlExpression (c : Call) :
    (urlExpression c).toList =
      (pathStart c).toList ++ (quote (String.ofList (pathText c))).toList := by
  have hname : escapeText (braced baseUrlName.toList) = braced baseUrlName.toList := by decide
  rw [Lexical.toList_quote, String.toList_ofList]
  unfold urlExpression pathStart pathText
  split
  · rw [Lexical.escapeText_append, hname]
    simp [String.toList_append, braced]
  · simp [String.toList_append, Lexical.toList_quote]

/-- The modules of a plan keep every text of the document in its literal: where one is written, a
reader of the literal gets the text and goes on with the code behind it. -/
structure KeepsTexts (p : TypedClient.Plan) (s : Settings) : Prop where
  aliases : ∀ m ∈ p.models, ∀ f ∈ m.fields, f.needsAlias = true → '\x00' ∉ f.wireName.toList →
    HoldsLiteral (aliasStart m f).toList f.wireName.toList [')'] (fieldDeclaration m f).toList
  values : ∀ e ∈ p.enums, ∀ v ∈ e.values, ∀ text, quotedText? v = some text →
    '\x00' ∉ text.toList → HoldsLiteral [] text.toList [] (literal v).toList
  unquoted : ∀ e ∈ p.enums, ∀ v ∈ e.values, quotedText? v = none → '"' ∉ (literal v).toList
  address : '\x00' ∉ p.baseUrl.toList → ∃ written,
    (templateValues p s).lookup "base_url" = some (.string written) ∧
      HoldsLiteral [] p.baseUrl.toList [] written.toList
  paths : ∀ c ∈ p.calls, '\x00' ∉ c.urlTemplate.toList →
    HoldsLiteral (pathStart c).toList (pathText c) [] (urlExpression c).toList

theorem keepsTexts (p : TypedClient.Plan) (s : Settings) : KeepsTexts p s where
  aliases := by
    intro m _ f _ halias hnull
    rw [fieldDeclaration_of_needsAlias m halias, String.toList_append, String.toList_append,
      List.append_assoc]
    exact holdsLiteral_quote hnull _ _
  values := by
    intro e _ v _ text hv hnull
    rw [literal_of_quotedText? hv]
    have hquote := holdsLiteral_quote hnull [] []
    rwa [List.nil_append, List.append_nil] at hquote
  unquoted := fun _ _ _ _ => quote_not_mem_literal
  address := by
    intro hnull
    have hquote := holdsLiteral_quote hnull [] []
    rw [List.nil_append, List.append_nil] at hquote
    exact ⟨quote p.baseUrl, rfl, hquote⟩
  paths := by
    intro c _ hnull
    have hpath : '\x00' ∉ (String.ofList (pathText c)).toList := by
      rw [String.toList_ofList, pathText, List.mem_append, not_or]
      refine ⟨?_, hnull⟩
      split <;> decide
    have hquote := holdsLiteral_quote hpath (pathStart c).toList []
    rwa [List.append_nil, String.toList_ofList, ← toList_urlExpression] at hquote

/-- The literal of a text without null characters is read as the text, and what follows it is left.
So texts have different literals, and in the modules of a plan no text of the document reaches
beyond the literal that is written for it. -/
theorem quote_spec :
    (∀ s : String, '\x00' ∉ s.toList → ∀ rest,
      readLiteral ((quote s).toList ++ rest) = some (s.toList, rest)) ∧
    Function.Injective quote ∧
    ∀ (p : TypedClient.Plan) (s : Settings), KeepsTexts p s := by
  refine ⟨fun s hnull rest => ?_, fun _ _ => Lexical.quote_inj, keepsTexts⟩
  rw [Lexical.readLiteral_quote, if_neg hnull]

/-- A text that ends in an escaped quote and what looks like the end of its literal. -/
theorem quote_spec_backslashQuote : '\x00' ∉ "a\\\"b\\n\\\"".toList ∧
    quote "a\\\"b\\n\\\"" = "\"a\\\\\\\"b\\\\n\\\\\\\"\"" ∧
    readLiteral ((quote "a\\\"b\\n\\\"").toList ++ ", x\"".toList) =
      some ("a\\\"b\\n\\\"".toList, ", x\"".toList) := by
  have hnull : '\x00' ∉ "a\\\"b\\n\\\"".toList := by decide
  exact ⟨hnull, by decide, quote_spec.1 _ hnull _⟩

end TypedClient.Render
