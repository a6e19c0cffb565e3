import TypedClient.Proofs.Lexical.StringLiterals
import TypedClient.Proofs.Plan.PathParameters
import TypedClient.Render.Functions

/-!
# Expressions for addresses

The address of a call is the address of the service followed by the template of the path, with the
arguments in the place of their names (`addressOf`). The expression for it is read by the rules for
literals (`readExpression`): without path parameters it is the name of a constant with a literal
behind it, which stands for the template as it is; with path parameters it is a formatted literal,
in which a brace that belongs to no argument has a meaning of its own. So the expression stands for
the address exactly if there is no such brace (`readExpression_urlExpression_iff`).
-/

namespace TypedClient.Render

open Client (Settings)
open Lexical (braces format isBrace readLiteral readText)
open OpenApi (Document)
open Plan

/-! ## Filling templates -/

theorem braces_eq_zero_of_isPathName {name : List Char} (h : IsPathName name) :
    braces name = 0 := by
  rw [Lexical.braces_eq_zero_iff]
  intro c hc
  have hopen : c ≠ '\x7b' := fun heq => h.not_mem_open (heq ▸ hc)
  have hclose : c ≠ '\x7d' := fun heq => h.not_mem_close (heq ▸ hc)
  simp [isBrace, hopen, hclose]

theorem braces_braced_append {name : List Char} (h : IsPathName name) (rest : List Char) :
    braces (braced name ++ rest) = 2 + braces rest := by
  rw [braced_append, Lexical.braces_cons, Lexical.braces_append, braces_eq_zero_of_isPathName h,
    Lexical.braces_cons, if_pos (by decide), if_pos (by decide)]
  omega

section Fill

/-- The text with every one of the names between braces replaced by its argument. -/
def fill (names : List (List Char)) (arguments : List Char → List Char) (text : List Char) :
    List Char :=
  Text.replaceEach (names.map fun name => (braced name, arguments name)) text 0

variable {names : List (List Char)} (hnames : ∀ name ∈ names, IsPathName name)

/-- Some of the names stands between braces at the beginning. -/
def StartsWithOneOf (names : List (List Char)) (cs : List Char) : Prop :=
  ∃ name ∈ names, braced name <+: cs

theorem fill_cons {c : Char} {cs : List Char} (h : ¬StartsWithOneOf names (c :: cs))
    (arguments : List Char → List Char) :
    fill names arguments (c :: cs) = c :: fill names arguments cs := by
  apply Text.replaceEach_cons
  rw [List.forall_mem_map]
  exact fun name hname hprefix => h ⟨name, hname, hprefix⟩

include hnames

theorem fill_braced {name : List Char} (hname : name ∈ names)
    (arguments : List Char → List Char) (rest : List Char) :
    fill names arguments (braced name ++ rest) = arguments name ++ fill names arguments rest := by
  apply Text.replaceEach_append (by simp [braced])
  -- the name that is found is the one that stands there
  cases hfind : (names.map fun name => (braced name, arguments name)).find?
      fun entry => entry.1.isPrefixOf (braced name ++ rest) with
  | none =>
      have hnot := List.find?_eq_none.1 hfind _ (List.mem_map_of_mem hname)
      exact absurd (List.isPrefixOf_iff_prefix.2 (List.prefix_append _ _)) hnot
  | some entry =>
      have hprefix := List.find?_some hfind
      obtain ⟨found, hfound, rfl⟩ := List.mem_map.1 (List.mem_of_find?_eq_some hfind)
      obtain ⟨rest', heq⟩ := List.isPrefixOf_iff_prefix.1 hprefix
      rw [(braced_append_inj (hnames found hfound).not_mem_close
        (hnames name hname).not_mem_close heq).1]

omit hnames in
/-- A template is read from the left: one of the names at once, anything else by its character. -/
theorem fill_induction (names : List (List Char)) {P : List Char → Prop} (nil : P [])
    (name : ∀ name ∈ names, ∀ rest, P rest → P (braced name ++ rest))
    (other : ∀ c rest, ¬StartsWithOneOf names (c :: rest) → P rest → P (c :: rest))
    (cs : List Char) : P cs := by
  induction hn : cs.length using Nat.strong_induction_on generalizing cs with
  | _ n ih =>
      cases cs with
      | nil => exact nil
      | cons c rest =>
          by_cases hstart : StartsWithOneOf names (c :: rest)
          · obtain ⟨first, hfirst, rest', heq⟩ := hstart
            rw [← heq]
            refine name first hfirst rest' (ih rest'.length ?_ rest' rfl)
            rw [← hn, ← heq, braced_append, List.length_cons, List.length_append, List.length_cons]
            omega
          · exact other c rest hstart (ih rest.length (by rw [← hn]; simp) rest rfl)

omit hnames in
/-- Without names, a text stays as it is. -/
theorem fill_no_names (arguments : List Char → List Char) (cs : List Char) :
    fill [] arguments cs = cs := by
  induction cs with
  | nil => rfl
  | cons c cs ih =>
      rw [fill_cons, ih]
      rintro ⟨name, hname, -⟩
      cases hname

/-- Every name takes two braces in the template. -/
theorem two_mul_braces_fill (arguments : List Char → List Char)
    (harguments : ∀ name, braces (arguments name) = 1) (text : List Char) :
    2 * braces (fill names arguments text) =
      braces text + braces (fill names (fun _ => []) text) := by
  induction text using fill_induction names with
  | nil => rfl
  | name name hname rest ih =>
      rw [fill_braced hnames hname, fill_braced hnames hname, Lexical.braces_append,
        harguments, braces_braced_append (hnames name hname), List.nil_append]
      omega
  | other c rest hother ih =>
      rw [fill_cons hother, fill_cons hother, Lexical.braces_cons, Lexical.braces_cons,
        Lexical.braces_cons]
      omega

/-- If nothing but the names stands between braces, the text is read with the arguments in their
place. -/
theorem format_eq_some_fill {value : List Char → Option (List Char)}
    {arguments : List Char → List Char}
    (hvalue : ∀ name ∈ names, value name = some (arguments name))
    {text : List Char} (h : ∀ c ∈ fill names (fun _ => []) text, isBrace c = false) :
    format value none text = some (fill names arguments text) := by
  induction text using fill_induction names with
  | nil => rfl
  | name name hname rest ih =>
      rw [fill_braced hnames hname, List.nil_append] at h
      have hpath := hnames name hname
      rw [fill_braced hnames hname, braced_append, Lexical.format_braced hpath.ne_nil
        hpath.not_mem_open hpath.not_mem_close (hvalue name hname), ih h, Option.map_some]
  | other c rest hother ih =>
      rw [fill_cons hother] at h
      rw [fill_cons hother, Lexical.format_of_not_isBrace (h c List.mem_cons_self),
        ih fun d hd => h d (List.mem_cons_of_mem c hd), Option.map_some]

end Fill

/-! ## Reading expressions -/

/-- The value of an expression, if the names in it have these values. It is a formatted literal, or
a name with a literal behind it. -/
def readExpression (value : List Char → Option (List Char)) : List Char → Option (List Char)
  | 'f' :: '"' :: rest =>
    match readText rest with
    | some (text, []) => format value none text
    | _ => none
  | expression =>
    match expression.span Lexical.isIdentifierChar with
    | (name, ' ' :: '+' :: ' ' :: literal) =>
      match value name, readLiteral literal with
      | some start, some (text, []) => some (start ++ text)
      | _, _ => none
    | _ => none

/-- The names of the arguments that stand in the path. -/
def argumentNames (c : Call) : List (List Char) := c.pathParameters.map fun p => p.name.toList

/-- What the names in the function of a call stand for, when the service is at `base`. -/
def binding (c : Call) (base : List Char) (arguments : List Char → List Char) (name : List Char) :
    Option (List Char) :=
  if (argumentNames c).contains name then some (arguments name)
  else if name = baseUrlName.toList then some base
  else none

/-- The address of a call with these arguments, when the service is at `base`. -/
def addressOf (c : Call) (base : List Char) (arguments : List Char → List Char) : List Char :=
  base ++ fill (argumentNames c) arguments c.urlTemplate.toList

/-- What stands around the arguments in the template. -/
def surroundings (c : Call) : List Char :=
  fill (argumentNames c) (fun _ => []) c.urlTemplate.toList

/-- What a call has from being made for an operation. -/
structure HasArguments (c : Call) : Prop where
  shape_eq : c.shape.isTemplate = !c.pathParameters.isEmpty
  name_eq : ∀ p ∈ c.pathParameters, p.HasArgument

theorem hasArguments_of_build {d : Document} {s : Settings} {p : TypedClient.Plan}
    (h : build d s = .ok p) {c : Call} (hc : c ∈ p.calls) : HasArguments c := by
  obtain ⟨o, -, declared, body, response, split, hdeclared, rfl⟩ := exists_callOf_of_build h hc
  exact ⟨CallShape.isTemplate_select _ _, hasArgument_of_mem_allPathParameters hdeclared⟩

section Calls

variable {c : Call} (hc : HasArguments c)
include hc

theorem HasArguments.isPathName : ∀ name ∈ argumentNames c, IsPathName name := by
  intro name hname
  obtain ⟨p, hp, rfl⟩ := List.mem_map.1 hname
  rw [hc.name_eq p hp]
  exact isPathName_parameterName p.wireName

/-- No argument is called like the constant. -/
theorem HasArguments.baseUrlName_not_mem : baseUrlName.toList ∉ argumentNames c := by
  intro hmem
  obtain ⟨p, hp, hname⟩ := List.mem_map.1 hmem
  rw [hc.name_eq p hp] at hname
  have hhead := Naming.startsOther_parameterName p.wireName
  rw [hname] at hhead
  exact absurd (hhead 'B' rfl) (by decide)

theorem HasArguments.binding_baseUrlName (base : List Char) (arguments : List Char → List Char) :
    binding c base arguments baseUrlName.toList = some base := by
  rw [binding, if_neg (mt List.contains_iff_mem.1 hc.baseUrlName_not_mem), if_pos rfl]

theorem HasArguments.braces_of_binding : ∀ name v,
    binding c ['\x7b'] (fun _ => ['\x7b']) name = some v → braces name = 0 ∧ braces v = 1 := by
  intro name v h
  unfold binding at h
  split at h
  · next hname =>
      cases h
      have hname := hc.isPathName name (List.contains_iff_mem.1 hname)
      exact ⟨braces_eq_zero_of_isPathName hname, rfl⟩
  · split at h
    · next heq =>
        cases h
        rw [heq]
        exact ⟨by decide, rfl⟩
    · cases h

/-- A formatted literal gives the address of the service and then what the template gives. -/
theorem HasArguments.format_braced_append (base : List Char) (arguments : List Char → List Char)
    (text : List Char) :
    format (binding c base arguments) none (braced baseUrlName.toList ++ text) =
      (format (binding c base arguments) none text).map (base ++ ·) := by
  rw [braced_append]
  exact Lexical.format_braced (by decide) (by decide) (by decide)
    (hc.binding_baseUrlName base arguments) text

theorem HasArguments.readExpression_template (htemplate : c.pathParameters ≠ []) (base : List Char)
    (arguments : List Char → List Char) :
    readExpression (binding c base arguments) (urlExpression c).toList =
      if '\x00' ∈ c.urlTemplate.toList then none
      else (format (binding c base arguments) none c.urlTemplate.toList).map (base ++ ·) := by
  have hshape : c.shape.isTemplate = true := by simpa [hc.shape_eq] using htemplate
  have hstart : Lexical.escapeText (braced baseUrlName.toList) = braced baseUrlName.toList := by
    decide
  have hexpression : (urlExpression c).toList =
      'f' :: '"' :: (Lexical.escapeText (braced baseUrlName.toList ++ c.urlTemplate.toList) ++
        ['"']) := by
    rw [urlExpression, if_pos hshape, Lexical.escapeText_append, hstart]
    simp [String.toList_append, braced]
  have hnull : '\x00' ∈ braced baseUrlName.toList ++ c.urlTemplate.toList ↔
      '\x00' ∈ c.urlTemplate.toList := by
    rw [List.mem_append, or_iff_right (by decide)]
  rw [hexpression, readExpression, Lexical.readText_escapeText]
  by_cases hmem : '\x00' ∈ c.urlTemplate.toList
  · rw [if_pos (hnull.2 hmem), if_pos hmem]
  · rw [if_neg (mt hnull.1 hmem), if_neg hmem]
    exact hc.format_braced_append base arguments c.urlTemplate.toList

theorem HasArguments.readExpression_static (hstatic : c.pathParameters = []) (base : List Char)
    (arguments : List Char → List Char) :
    readExpression (binding c base arguments) (urlExpression c).toList =
      if '\x00' ∈ c.urlTemplate.toList then none else some (base ++ c.urlTemplate.toList) := by
  have hshape : c.shape.isTemplate ≠ true := by simp [hc.shape_eq, hstatic]
  have hread := Lexical.readLiteral_quote c.urlTemplate []
  rw [List.append_nil] at hread
  have hexpression : (urlExpression c).toList =
      baseUrlName.toList ++ ' ' :: '+' :: ' ' :: (Lexical.quote c.urlTemplate).toList := by
    rw [urlExpression, if_neg hshape, String.toList_append, String.toList_append, List.append_assoc]
    rfl
  have hreads : readExpression (binding c base arguments) (urlExpression c).toList =
      match binding c base arguments baseUrlName.toList,
        readLiteral (Lexical.quote c.urlTemplate).toList with
      | some start, some (text, []) => some (start ++ text)
      | _, _ => none := by
    rw [hexpression]
    rfl
  rw [hreads, hc.binding_baseUrlName, hread]
  by_cases hmem : '\x00' ∈ c.urlTemplate.toList
  · rw [if_pos hmem, if_pos hmem]
  · rw [if_neg hmem, if_neg hmem]

/-- The expression for the address stands for the address, whatever the arguments are, exactly if
the template holds no null character and, in a formatted literal, no braces but those of
arguments. -/
theorem HasArguments.readExpression_iff :
    (∀ base arguments, readExpression (binding c base arguments) (urlExpression c).toList =
      some (addressOf c base arguments)) ↔
    '\x00' ∉ c.urlTemplate.toList ∧
      (c.pathParameters ≠ [] → ∀ ch ∈ surroundings c, isBrace ch = false) := by
  have hnames := hc.isPathName
  by_cases hparameters : c.pathParameters = []
  · have haddress : ∀ base arguments,
        addressOf c base arguments = base ++ c.urlTemplate.toList := by
      intro base arguments
      rw [addressOf, argumentNames, hparameters, List.map_nil, fill_no_names]
    simp [hc.readExpression_static hparameters, haddress, hparameters]
  · simp only [hc.readExpression_template hparameters, ne_eq, hparameters, not_false_iff,
      true_imp_iff]
    constructor
    · intro h
      have hnull : '\x00' ∉ c.urlTemplate.toList := by
        intro hmem
        have heq := h [] fun _ => []
        rw [if_pos hmem] at heq
        cases heq
      refine ⟨hnull, ?_⟩
      -- with one brace for each value, every brace of the address has taken two to write
      have hread := h ['\x7b'] fun _ => ['\x7b']
      rw [if_neg hnull, ← hc.format_braced_append] at hread
      have hcount := Lexical.two_mul_braces_of_format hc.braces_of_binding hread
      have hfill := two_mul_braces_fill hnames (fun _ => ['\x7b']) (fun _ => rfl)
        c.urlTemplate.toList
      have hstart : braces ['\x7b'] = 1 := rfl
      rw [addressOf, Lexical.braces_append, hstart, Option.elim_none,
        braces_braced_append ⟨by decide, by decide, by decide⟩] at hcount
      rw [← Lexical.braces_eq_zero_iff, surroundings]
      omega
    · rintro ⟨hnull, hbraces⟩ base arguments
      have hvalue : ∀ name ∈ argumentNames c,
          binding c base arguments name = some (arguments name) := by
        intro name hname
        rw [binding, if_pos (List.contains_iff_mem.2 hname)]
      rw [if_neg hnull, format_eq_some_fill hnames hvalue hbraces]
      rfl

end Calls

/-! ## Plans -/

/-- In every plan, the expression for the address of a call stands for the address whatever the
arguments are, unless the template holds a null character or, next to its arguments, other
braces. -/
theorem readExpression_urlExpression_iff (d : Document) (s : Settings) (p : TypedClient.Plan)
    (h : build d s = .ok p) : ∀ c ∈ p.calls,
      (∀ base arguments, readExpression (binding c base arguments) (urlExpression c).toList =
        some (addressOf c base arguments)) ↔
      '\x00' ∉ c.urlTemplate.toList ∧
        (c.pathParameters ≠ [] → ∀ ch ∈ surroundings c, isBrace ch = false) :=
  fun _ hc => (hasArguments_of_build h hc).readExpression_iff

theorem readExpression_urlExpression_iff_reading : ∃ p,
    build (operationsAlone [reading "x" "/a b/{petId}", reading "y" "/\x7b\x7d/\"c\\"]) {} = .ok p ∧
    p.calls.map urlExpression =
      ["f\"\x7bBASE_URL\x7d/a b/\x7bpet_id\x7d\"", "BASE_URL + \"/\x7b\x7d/\\\"c\\\\\""] ∧
    ∀ c ∈ p.calls, ∀ base arguments,
      readExpression (binding c base arguments) (urlExpression c).toList =
        some (addressOf c base arguments) := by
  have hbuilds : builds
      (operationsAlone [reading "x" "/a b/{petId}", reading "y" "/\x7b\x7d/\"c\\"]) {} (fun p =>
        p.calls.map urlExpression ==
        ["f\"\x7bBASE_URL\x7d/a b/\x7bpet_id\x7d\"", "BASE_URL + \"/\x7b\x7d/\\\"c\\\\\""] &&
        p.calls.all fun c => !c.urlTemplate.toList.contains '\x00' &&
          (c.pathParameters.isEmpty || (surroundings c).all fun ch => !isBrace ch)) = true := by
    decide +kernel
  obtain ⟨p, hp, htest⟩ := exists_of_builds hbuilds
  obtain ⟨hexpressions, hcalls⟩ := Bool.and_eq_true_iff.1 htest
  refine ⟨p, hp, eq_of_beq hexpressions, fun c hc => ?_⟩
  have hcall := List.all_eq_true.1 hcalls c hc
  refine (readExpression_urlExpression_iff _ {} p hp c hc).2 ?_
  simpa [or_iff_not_imp_left] using hcall

/-- A path with an argument and with a pair of braces around nothing. -/
def emptyBraces : Json := .object [
  ("openapi", .string "3.0.0"),
  ("paths", .object [("/a/\x7bid\x7d/\x7b\x7d", .object [
    ("get", .object [("operationId", .string "x"), ("responses", .object [])])])]),
  ("components", .object [("schemas", .object [])])]

/-- The pair of braces stands for nothing that could be written there. -/
theorem readExpression_emptyBraces :
    ∃ d p, Document.ofJson emptyBraces = .ok d ∧ build d {} = .ok p ∧
      p.calls.map urlExpression = ["f\"\x7bBASE_URL\x7d/a/\x7bid\x7d/\x7b\x7d\""] ∧
      ¬∀ c ∈ p.calls, ∀ base arguments,
        readExpression (binding c base arguments) (urlExpression c).toList =
          some (addressOf c base arguments) := by
  have hgenerates : generates emptyBraces {} (fun p =>
      p.calls.map urlExpression == ["f\"\x7bBASE_URL\x7d/a/\x7bid\x7d/\x7b\x7d\""] &&
      p.calls.all fun c =>
        (readExpression (binding c [] fun _ => []) (urlExpression c).toList).isNone) = true := by
    decide +kernel
  obtain ⟨d, p, hd, hp, htest⟩ := exists_of_generates hgenerates
  obtain ⟨hexpressions, hnone⟩ := Bool.and_eq_true_iff.1 htest
  have hexpressions := eq_of_beq hexpressions
  refine ⟨d, p, hd, hp, hexpressions, fun hall => ?_⟩
  obtain ⟨c, hc, -⟩ := List.mem_map.1 (hexpressions ▸ List.mem_singleton_self _)
  have hread := List.all_eq_true.1 hnone c hc
  rw [hall c hc [] fun _ => []] at hread
  cases hread

end TypedClient.Render
