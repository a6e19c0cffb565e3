import TypedClient.Proofs.Json.WrittenForm
import TypedClient.Proofs.Lexical.Capitals
import TypedClient.Proofs.Plan.FieldNames
import TypedClient.Proofs.Render.OneLine

/-!
# Fields and the types of annotations

A field is an attribute of its class, so from its own declaration on its name stands for the field
and no longer for a type. Field names are kept away from the symbols of the module, but not from its
classes. In an annotation a word that begins with a capital is a symbol, or a word of the class that
the kind refers to (`symbol_or_annotates_of_mem_words_fieldHint`); class names begin with no small
letter and field names with no underscore. So a field hides a type exactly if it is called like the
class in its own annotation or in that of a later field (`not_shadowed_iff`).
-/

namespace TypedClient.Render

open Client (Settings)
open Lexical (isIdentifierChar isValidIdentifier modelSymbols IsFieldName)
open OpenApi (Document)
open Plan Plan.Claiming
open Text (splitAt startsLower)

/-! ## Words outside of quotes -/

/-- The text with spaces for the quotes and for what stands between two of them. -/
def unquoted : (quoted : Bool) → List Char → List Char
  | _, [] => []
  | quoted, c :: cs =>
    if c == '\'' then ' ' :: unquoted (!quoted) cs
    else (if quoted then ' ' else c) :: unquoted quoted cs

/-- The words of a text that stand outside of quotes. -/
def words (cs : List Char) : List (List Char) :=
  splitAt (fun c => !isIdentifierChar c) (unquoted false cs)

/-- The name occurs in the text outside of quotes. -/
def Occurs (name text : String) : Prop := name.toList ∈ words text.toList

instance (name text : String) : Decidable (Occurs name text) :=
  inferInstanceAs (Decidable (name.toList ∈ words text.toList))

section Words

variable {cs ds word : List Char} {c : Char}

theorem mem_unquoted {quoted : Bool} (h : c ∈ unquoted quoted cs) : c ∈ cs ∨ c = ' ' := by
  induction cs generalizing quoted with
  | nil => cases h
  | cons d cs ih =>
      unfold unquoted at h
      split at h
      · rcases List.mem_cons.1 h with rfl | h
        · exact Or.inr rfl
        · exact (ih h).imp_left (List.mem_cons_of_mem d)
      · rcases List.mem_cons.1 h with rfl | h
        · cases quoted with
          | false => exact Or.inl List.mem_cons_self
          | true => exact Or.inr rfl
        · exact (ih h).imp_left (List.mem_cons_of_mem d)

/-- What follows a text is read between quotes or outside of them. -/
theorem exists_unquoted_append (quoted : Bool) (cs ds : List Char) :
    ∃ quoted', unquoted quoted (cs ++ ds) = unquoted quoted cs ++ unquoted quoted' ds := by
  induction cs generalizing quoted with
  | nil => exact ⟨quoted, rfl⟩
  | cons c cs ih =>
      rw [List.cons_append, unquoted, unquoted]
      split
      · obtain ⟨quoted', h⟩ := ih (!quoted)
        exact ⟨quoted', by rw [h, List.cons_append]⟩
      · obtain ⟨quoted', h⟩ := ih quoted
        exact ⟨quoted', by rw [h, List.cons_append]⟩

theorem quote_ne_of_isIdentifierChar (h : isIdentifierChar c = true) : c ≠ '\'' := by
  rintro rfl
  exact absurd h (by decide)

/-- A text without quotes is left as it is, in front of whatever follows. -/
theorem unquoted_append (h : ∀ c ∈ cs, isIdentifierChar c = true) (ds : List Char) :
    unquoted false (cs ++ ds) = cs ++ unquoted false ds := by
  induction cs with
  | nil => rfl
  | cons c cs ih =>
      have hquote := quote_ne_of_isIdentifierChar (h c List.mem_cons_self)
      rw [List.cons_append, unquoted, if_neg (by simpa using hquote),
        ih fun d hd => h d (List.mem_cons_of_mem c hd)]
      rfl

/-- A text of identifier characters is one word. -/
theorem words_of_isIdentifierChar (h : ∀ c ∈ cs, isIdentifierChar c = true) : words cs = [cs] := by
  have hunquoted : unquoted false (cs ++ []) = cs ++ [] := unquoted_append h []
  rw [List.append_nil] at hunquoted
  rw [words, hunquoted]
  apply Text.splitAt_of_all_not
  intro c hc
  rw [h c hc]
  rfl

/-- The words of a text in brackets are its own, and the word in front of the brackets. -/
theorem mem_words_bracketed (hcs : ∀ c ∈ cs, isIdentifierChar c = true) (hword : word ≠ []) :
    word ∈ words (cs ++ '[' :: (ds ++ [']'])) ↔ word = cs ∨ word ∈ words ds := by
  obtain ⟨quoted, hquoted⟩ := exists_unquoted_append false ds [']']
  obtain ⟨c, hc, hbreak⟩ : ∃ c, unquoted quoted [']'] = [c] ∧ isIdentifierChar c = false := by
    cases quoted
    · exact ⟨']', rfl, by decide⟩
    · exact ⟨' ', rfl, by decide⟩
  have hbracket : unquoted false ('[' :: (ds ++ [']'])) = '[' :: (unquoted false ds ++ [c]) := by
    rw [unquoted, if_neg (by decide), hquoted, hc]
    rfl
  have hpieces : splitAt (fun c => !isIdentifierChar c) cs = [cs] :=
    Text.splitAt_of_all_not fun d hd => by rw [hcs d hd]; rfl
  rw [words, unquoted_append hcs, hbracket, Text.splitAt_append_cons (by decide), hpieces,
    Text.splitAt_append_cons (by rw [hbreak]; rfl), Text.splitAt_nil]
  simp [words, hword]

/-- Whether the text begins with an upper-case letter of ASCII. -/
def startsUpper (cs : List Char) : Bool := cs.head?.any Char.isUpper

/-- A text without capitals outside of quotes has no word that begins with one. -/
theorem not_mem_words (h : ∀ c ∈ unquoted false cs, c.isUpper = false)
    (hupper : startsUpper word = true) : word ∉ words cs := by
  intro hmem
  cases word with
  | nil => cases hupper
  | cons c word =>
      have hcapital : c.isUpper = true := hupper
      rw [h c (Naming.mem_of_mem_splitAt hmem List.mem_cons_self)] at hcapital
      cases hcapital

theorem unquoted_true (h : ∀ c ∈ cs, isIdentifierChar c = true) :
    unquoted true (cs ++ ['\'']) = List.replicate (cs.length + 1) ' ' := by
  induction cs with
  | nil => rfl
  | cons c cs ih =>
      have hquote := quote_ne_of_isIdentifierChar (h c List.mem_cons_self)
      rw [List.cons_append, unquoted, if_neg (by simpa using hquote),
        ih fun d hd => h d (List.mem_cons_of_mem c hd)]
      rfl

/-- What stands between quotes is no word. -/
theorem not_mem_words_quoted (hcs : ∀ c ∈ cs, isIdentifierChar c = true)
    (hupper : startsUpper word = true) : word ∉ words ('\'' :: (cs ++ ['\''])) := by
  refine not_mem_words (fun c hc => ?_) hupper
  have hspaces : unquoted false ('\'' :: (cs ++ ['\''])) = ' ' :: unquoted true (cs ++ ['\'']) :=
    rfl
  rw [hspaces, unquoted_true hcs] at hc
  rcases List.mem_cons.1 hc with rfl | hc
  · rfl
  · rw [List.eq_of_mem_replicate hc]
    rfl

end Words

/-! ## Arguments -/

/-- Whether the text has no upper-case letter of ASCII. -/
def noCapital (text : String) : Bool := text.toList.all fun c => !c.isUpper

section Arguments

variable {a b : String}

theorem noCapital_append (ha : noCapital a = true) (hb : noCapital b = true) :
    noCapital (a ++ b) = true := by
  rw [noCapital, String.toList_append, List.all_append, Bool.and_eq_true]
  exact ⟨ha, hb⟩

theorem not_mem_words_of_noCapital (h : noCapital a = true) {word : List Char}
    (hupper : startsUpper word = true) : word ∉ words a.toList := by
  refine not_mem_words (fun c hc => ?_) hupper
  rcases mem_unquoted hc with hc | rfl
  · simpa using List.all_eq_true.1 h c hc
  · rfl

theorem noCapital_commaSeparated {parts : List String} (h : ∀ part ∈ parts, noCapital part = true) :
    noCapital (commaSeparated parts) = true := by
  rw [noCapital, commaSeparated, String.toList_intercalate]
  induction parts with
  | nil => rfl
  | cons part parts ih =>
      have hpart := h part List.mem_cons_self
      have ih := ih fun part' hpart' => h part' (List.mem_cons_of_mem part hpart')
      cases parts with
      | nil => simpa [noCapital] using hpart
      | cons part' parts =>
          rw [List.map_cons] at ih
          rw [List.map_cons, List.map_cons, List.intercalate_cons_cons, List.all_append,
            List.all_append, ih]
          have hpart : (part.toList.all fun c => !c.isUpper) = true := hpart
          rw [hpart]
          rfl

theorem noCapital_keywordArgument {keyword : String} {value : Option String}
    (hkeyword : noCapital keyword = true) (hvalue : ∀ text ∈ value, noCapital text = true) :
    ∀ part ∈ keywordArgument keyword value, noCapital part = true := by
  intro part hpart
  cases value with
  | none => cases hpart
  | some text =>
      rw [List.mem_singleton.1 hpart]
      exact noCapital_append (noCapital_append hkeyword (by decide)) (hvalue text rfl)

theorem isUpper_eq_false_of_isDigit {c : Char} (h : c.isDigit = true) : c.isUpper = false := by
  have hascii : ∀ n < 0x80, (Char.ofNat n).isDigit = true → (Char.ofNat n).isUpper = false := by
    decide
  have hlt := Naming.toNat_lt_of_isIdentifierChar (Lexical.isIdentifierChar_of_isDigit h)
  exact Naming.forall_of_forall_lt (P := fun c => c.isDigit = true → c.isUpper = false) hascii hlt h

theorem noCapital_number (n : JsonNumber) : noCapital n.text = true := by
  rw [noCapital, List.all_eq_true]
  intro c hc
  have hnumeral := Json.isNumeralChar_of_mem_number hc
  simp only [Number.Double.isNumeralChar, Bool.or_eq_true, beq_iff_eq] at hnumeral
  rw [Bool.not_eq_true']
  rcases hnumeral with (((hdigit | rfl) | rfl) | rfl) | rfl
  · exact isUpper_eq_false_of_isDigit hdigit
  all_goals rfl

theorem noCapital_toString (n : Nat) : noCapital (toString n) = true := by
  rw [noCapital, List.all_eq_true]
  intro c hc
  rw [Nat.toString_eq_repr, Nat.toList_repr] at hc
  rw [Bool.not_eq_true']
  exact isUpper_eq_false_of_isDigit (Nat.isDigit_of_mem_toDigits (by decide) (by decide) hc)

theorem noCapital_lengthArguments (range : LengthRange) :
    noCapital (lengthArguments range) = true := by
  have hvalue : ∀ (limit : Option Nat), ∀ text ∈ limit.map toString, noCapital text = true := by
    intro limit text htext
    obtain ⟨n, -, rfl⟩ := Option.mem_map.1 htext
    exact noCapital_toString n
  apply noCapital_commaSeparated
  intro part hpart
  rcases List.mem_append.1 hpart with hpart | hpart
  · exact noCapital_keywordArgument (by decide) (hvalue range.min) part hpart
  · exact noCapital_keywordArgument (by decide) (hvalue range.max) part hpart

theorem noCapital_boundArgument (bound : Option Bound) :
    ∀ part ∈ boundArgument bound, noCapital part = true := by
  intro part hpart
  cases bound with
  | none => cases hpart
  | some b =>
      have hkeyword : noCapital b.comparator.name = true := by cases b.comparator <;> decide
      have hpart : part ∈ keywordArgument b.comparator.name (some b.value.text) := hpart
      refine noCapital_keywordArgument hkeyword ?_ part hpart
      rintro text ⟨⟩
      exact noCapital_number b.value

theorem noCapital_numberArguments (range : NumberRange) :
    noCapital (numberArguments range) = true := by
  have hmultiple : ∀ text ∈ range.multipleOf.map JsonNumber.text, noCapital text = true := by
    intro text htext
    obtain ⟨n, -, rfl⟩ := Option.mem_map.1 htext
    exact noCapital_number n
  apply noCapital_commaSeparated
  intro part hpart
  simp only [List.mem_append] at hpart
  rcases hpart with (hpart | hpart) | hpart
  · exact noCapital_boundArgument range.lower part hpart
  · exact noCapital_boundArgument range.upper part hpart
  · exact noCapital_keywordArgument (by decide) hmultiple part hpart

end Arguments

/-! ## Annotations -/

/-- The annotation of the kind has this class in it, outside of quotes. -/
def Annotates (kind : Kind) (name : String) : Prop :=
  Kind.Part (.model name false) kind ∨ Kind.Part (.enumeration name) kind

/-- The models that the kind refers to forward have names that quotes enclose. -/
def Encloses (kind : Kind) : Prop :=
  ∀ name, Kind.Part (.model name true) kind → ∀ c ∈ name.toList, isIdentifierChar c = true

theorem annotates_list_iff {items : Kind} {name : String} :
    Annotates (.list items) name ↔ Annotates items name := by
  simp [Annotates, Kind.part_list_iff]

section Annotations

variable {kind : Kind} {word : List Char}

theorem mem_words_list (hint : String) (hword : word ≠ []) :
    word ∈ words ("List[" ++ hint ++ "]").toList ↔
      word = "List".toList ∨ word ∈ words hint.toList := by
  have hhint :
      ("List[" ++ hint ++ "]").toList = "List".toList ++ '[' :: (hint.toList ++ [']']) := by
    simp [String.toList_append]
  rw [hhint, mem_words_bracketed (List.all_eq_true.1 rfl) hword]

theorem mem_words_optional (hint : String) (hword : word ≠ []) :
    word ∈ words (optional hint).toList ↔ word = "Optional".toList ∨ word ∈ words hint.toList := by
  have hhint : (optional hint).toList = "Optional".toList ++ '[' :: (hint.toList ++ [']']) := by
    simp [optional, String.toList_append]
  rw [hhint, mem_words_bracketed (List.all_eq_true.1 rfl) hword]

theorem ne_nil_of_startsUpper (h : startsUpper word = true) : word ≠ [] := by
  rintro rfl
  cases h

/-- A word with a capital in front is a symbol or a word of the class. -/
theorem symbol_or_annotates_of_mem_words_kindHint (hencloses : Encloses kind)
    (hupper : startsUpper word = true) (h : word ∈ words (kindHint kind).toList) :
    String.ofList word ∈ modelSymbols ∨ ∃ name, Annotates kind name ∧ word ∈ words name.toList := by
  induction kind with
  | primitive p =>
      refine absurd h (not_mem_words_of_noCapital ?_ hupper)
      cases p <;> decide
  | boundedText range =>
      refine absurd h (not_mem_words_of_noCapital ?_ hupper)
      exact noCapital_append (noCapital_append (by decide) (noCapital_lengthArguments range))
        (by decide)
  | boundedInteger range =>
      refine absurd h (not_mem_words_of_noCapital ?_ hupper)
      exact noCapital_append (noCapital_append (by decide) (noCapital_numberArguments range))
        (by decide)
  | boundedNumber range =>
      refine absurd h (not_mem_words_of_noCapital ?_ hupper)
      exact noCapital_append (noCapital_append (by decide) (noCapital_numberArguments range))
        (by decide)
  | list items ih =>
      unfold kindHint at h
      split at h
      · exact absurd h (not_mem_words_of_noCapital (by decide) hupper)
      · rw [mem_words_list _ (ne_nil_of_startsUpper hupper)] at h
        rcases h with rfl | h
        · exact Or.inl (by decide)
        · simp only [annotates_list_iff]
          exact ih (fun name hpart => hencloses name hpart.items) h
  | model name forward =>
      cases forward with
      | true =>
          have hquoted : ("'" ++ name ++ "'").toList = '\'' :: (name.toList ++ ['\'']) := by
            simp [String.toList_append]
          change word ∈ words ("'" ++ name ++ "'").toList at h
          rw [hquoted] at h
          exact absurd h (not_mem_words_quoted (hencloses name .self) hupper)
      | false => exact Or.inr ⟨name, Or.inl .self, h⟩
  | enumeration name => exact Or.inr ⟨name, Or.inr .self, h⟩
  | unknown =>
      rw [kindHint, words_of_isIdentifierChar (List.all_eq_true.1 rfl), List.mem_singleton] at h
      rw [h]
      exact Or.inl (by decide)

/-- The words of the class stand in the annotation. -/
theorem mem_words_kindHint {name : String} (hannotates : Annotates kind name) (hword : word ≠ [])
    (h : word ∈ words name.toList) : word ∈ words (kindHint kind).toList := by
  induction kind with
  | list items ih =>
      rw [annotates_list_iff] at hannotates
      unfold kindHint
      split
      · next hunknown =>
          cases items with
          | unknown => rcases hannotates with hpart | hpart <;> cases hpart
          | _ => cases hunknown
      · rw [mem_words_list _ hword]
        exact Or.inr (ih hannotates)
  | model name' forward =>
      rcases hannotates with hpart | hpart
      · cases hpart
        exact h
      · cases hpart
  | enumeration name' =>
      rcases hannotates with hpart | hpart
      · cases hpart
      · cases hpart
        exact h
  | _ => rcases hannotates with hpart | hpart <;> cases hpart

theorem symbol_or_annotates_of_mem_words_fieldHint {m : Model} {f : Field}
    (hencloses : Encloses f.kind) (hupper : startsUpper word = true)
    (h : word ∈ words (fieldHint m f).toList) :
    String.ofList word ∈ modelSymbols ∨
      ∃ name, Annotates f.kind name ∧ word ∈ words name.toList := by
  unfold fieldHint at h
  split at h
  · rw [mem_words_optional _ (ne_nil_of_startsUpper hupper)] at h
    rcases h with rfl | h
    · exact Or.inl (by decide)
    · exact symbol_or_annotates_of_mem_words_kindHint hencloses hupper h
  · exact symbol_or_annotates_of_mem_words_kindHint hencloses hupper h

theorem mem_words_fieldHint {m : Model} {f : Field} {name : String}
    (hannotates : Annotates f.kind name) (hword : word ≠ []) (h : word ∈ words name.toList) :
    word ∈ words (fieldHint m f).toList := by
  have hkind := mem_words_kindHint hannotates hword h
  unfold fieldHint
  split
  · rw [mem_words_optional _ hword]
    exact Or.inr hkind
  · exact hkind

end Annotations

/-! ## Built plans -/

section Built

variable {d : Document} {s : Settings} {p : TypedClient.Plan} {m : Model} {f g : Field}

theorem startsLower_modelName (component : String) :
    startsLower (Naming.modelName component).toList = false :=
  Lexical.startsLower_sanitize (Naming.startsLower_typeWords component)

theorem startsLower_typeWords_append (raw : String) {suffix : String}
    (h : startsLower suffix.toList = false) :
    startsLower (Naming.typeWords raw ++ suffix).toList = false := by
  rw [String.toList_append]
  exact Text.startsLower_append (Naming.startsLower_typeWords raw) h

/-- No class name begins with a lower-case letter. -/
theorem startsLower_of_mem_classNames (h : build d s = .ok p) {name : String}
    (hname : name ∈ p.models.map Model.name ++ p.enums.map Enumeration.name) :
    startsLower name.toList = false := by
  rcases List.mem_append.1 hname with hname | hname
  · cases (mem_modelNames_iff h).1 hname with
    | whole hmem htarget hwhole =>
        rw [eq_modelName_of_ofComponent (Or.inl htarget)]
        exact startsLower_modelName _
    | half hmem htarget hdirected v =>
        rw [eq_modelName_of_ofComponent (Or.inl htarget), Variant.nameOf, String.toList_append]
        exact Text.startsLower_append (startsLower_modelName _) (by cases v <;> decide)
    | container ho hquery => exact startsLower_typeWords_append _ (by decide)
  · obtain ⟨e, he, rfl⟩ := List.mem_map.1 hname
    rcases exists_source_of_build h he with
      ⟨component, schema, -, htarget⟩ | ⟨owner, field, -, heq⟩
    · rw [eq_modelName_of_ofComponent (Or.inr htarget)]
      exact startsLower_modelName component
    · rw [heq]
      exact startsLower_typeWords_append _ (by decide)

theorem isFieldName_of_mem_fields (h : build d s = .ok p) (hm : m ∈ p.models)
    (hf : f ∈ m.fields) : IsFieldName f.name := by
  obtain ⟨base, made, n, hdrafted, hmodels, -, -, -⟩ := build_eq_ok h
  rw [hmodels] at hm
  obtain ⟨drafted, hmem, variant, hvariant, hplaced⟩ := exists_placed_of_mem hm
  have hname : f.name ∈ variant.fields.map Field.name :=
    hplaced.map_name ▸ List.mem_map_of_mem hf
  obtain ⟨field, hfield, hname⟩ := List.mem_map.1 hname
  rw [← hname]
  exact (hdrafted.areFieldNames hmem).isFieldName _
    (List.mem_map_of_mem ((fields_sublist_of_mem_variants hvariant).subset hfield))

/-- A field name begins with a letter. -/
theorem startsUpper_of_isFieldName {name : String} (h : IsFieldName name)
    (hlower : startsLower name.toList = false) : startsUpper name.toList = true := by
  have hascii : ∀ n < 0x80, isIdentifierChar (Char.ofNat n) = true →
      (Char.ofNat n).isDigit = false → Char.ofNat n ≠ '_' → (Char.ofNat n).isLower = false →
        (Char.ofNat n).isUpper = true := by decide
  have hword := Lexical.isWord_of_isValidIdentifier h.valid
  obtain ⟨c, hc, hdigit⟩ := hword.head
  have hhead := h.head
  have hchar := hword.chars c (List.mem_of_mem_head? hc)
  rw [startsLower, hc] at hlower
  rw [hc] at hhead
  rw [startsUpper, hc]
  exact Naming.forall_of_forall_lt (P := fun c => isIdentifierChar c = true →
    c.isDigit = false → c ≠ '_' → c.isLower = false → c.isUpper = true) hascii
    (Naming.toNat_lt_of_isIdentifierChar hchar) hchar hdigit (fun heq => hhead (congrArg some heq))
    hlower

/-- The models of a plan have names that are made of identifier characters. -/
theorem isIdentifierChar_of_part (h : build d s = .ok p) (hm : m ∈ p.models) (hf : f ∈ m.fields)
    {name : String} {forward : Bool} (hpart : Kind.Part (.model name forward) f.kind) :
    ∀ c ∈ name.toList, isIdentifierChar c = true :=
  isIdentifierChar_of_classOf
    ((mem_modelNames_iff h).1 ((mem_of_field h hm hf).1 name (Kind.part_model_iff.1 hpart).1))

/-- A field hides a type of an annotation exactly if it is called like the class in it. -/
theorem hides_iff (h : build d s = .ok p) (hm : m ∈ p.models) (hg : g ∈ m.fields)
    (hf : f ∈ m.fields) :
    (∀ name ∈ modelSymbols ++ (p.models.map Model.name ++ p.enums.map Enumeration.name),
        Occurs name (fieldHint m f) → g.name ≠ name) ↔
      (∀ name, Kind.Part (.model name false) f.kind → g.name ≠ name) ∧
      ∀ name, Kind.Part (.enumeration name) f.kind → Occurs g.name name →
        g.name ∉ p.models.map Model.name ++ p.enums.map Enumeration.name := by
  have hname := isFieldName_of_mem_fields h hm hg
  have hne : g.name.toList ≠ [] := by
    intro hnil
    have hword := Lexical.isWord_of_isValidIdentifier hname.valid
    rw [hnil] at hword
    exact Lexical.not_isWord_nil hword
  constructor
  · intro hall
    refine ⟨?_, ?_⟩
    · rintro name hpart rfl
      have hchars := isIdentifierChar_of_part h hm hf hpart
      have hoccurs : Occurs g.name (fieldHint m f) := by
        refine mem_words_fieldHint (Or.inl hpart) hne ?_
        rw [words_of_isIdentifierChar hchars]
        exact List.mem_singleton_self _
      have hclass := (mem_of_field h hm hf).1 g.name (Kind.part_model_iff.1 hpart).1
      exact hall g.name (List.mem_append_right _ (List.mem_append_left _ hclass)) hoccurs rfl
    · intro name hpart hoccurs hclass
      exact hall g.name (List.mem_append_right _ hclass)
        (mem_words_fieldHint (Or.inr hpart) hne hoccurs) rfl
  · rintro ⟨hmodel, henum⟩ name hmem hoccurs rfl
    have hfree : g.name ∉ modelSymbols := fun hsymbol =>
      hname.free (List.mem_append_right _ hsymbol)
    have hclass := (List.mem_append.1 hmem).resolve_left hfree
    have hupper := startsUpper_of_isFieldName hname (startsLower_of_mem_classNames h hclass)
    have hencloses : Encloses f.kind := fun name hpart => isIdentifierChar_of_part h hm hf hpart
    rcases symbol_or_annotates_of_mem_words_fieldHint hencloses hupper hoccurs with
      hsymbol | ⟨name, hpart | hpart, hword⟩
    · rw [String.ofList_toList] at hsymbol
      exact hfree hsymbol
    · rw [words_of_isIdentifierChar (isIdentifierChar_of_part h hm hf hpart),
        List.mem_singleton] at hword
      exact hmodel name hpart (String.toList_inj.1 hword)
    · exact henum name hpart hword hclass

end Built

/-- In a plan that is built, no field has the name of a type in its own annotation or in that of a
later field of its model, exactly if none is called like the model that such an annotation names
outside of quotes, or like a class that is a word of the enumeration in it. -/
theorem not_shadowed_iff (d : Document) (s : Settings) (p : TypedClient.Plan)
    (h : build d s = .ok p) :
    (∀ m ∈ p.models, ∀ before g after, m.fields = before ++ g :: after → ∀ f ∈ g :: after,
      ∀ name ∈ modelSymbols ++ (p.models.map Model.name ++ p.enums.map Enumeration.name),
        Occurs name (fieldHint m f) → g.name ≠ name) ↔
      ∀ m ∈ p.models, ∀ before g after, m.fields = before ++ g :: after → ∀ f ∈ g :: after,
        (∀ name, Kind.Part (.model name false) f.kind → g.name ≠ name) ∧
        ∀ name, Kind.Part (.enumeration name) f.kind → Occurs g.name name →
          g.name ∉ p.models.map Model.name ++ p.enums.map Enumeration.name := by
  have hfields : ∀ m ∈ p.models, ∀ before g after, m.fields = before ++ g :: after →
      ∀ f ∈ g :: after, g ∈ m.fields ∧ f ∈ m.fields := by
    intro m _ before g after heq f hf
    rw [heq]
    exact ⟨List.mem_append_right before List.mem_cons_self, List.mem_append_right before hf⟩
  constructor
  · intro hall m hm before g after heq f hf
    obtain ⟨hg, hf'⟩ := hfields m hm before g after heq f hf
    exact (hides_iff h hm hg hf').1 (hall m hm before g after heq f hf)
  · intro hall m hm before g after heq f hf
    obtain ⟨hg, hf'⟩ := hfields m hm before g after heq f hf
    exact (hides_iff h hm hg hf').2 (hall m hm before g after heq f hf)

/-- Nodes that refer to themselves: the annotation has the class between quotes. -/
def nodes : Document where
  version := "3.0.0"
  info := none
  servers := []
  operations := []
  schemas := [("node", {
    type := some (.one "object")
    properties := some [
      ("Node", componentReference "node"),
      ("kind", choice ["leaf", "branch"])] })]

theorem not_shadowed_iff_nodes : ∃ p, build nodes {} = .ok p ∧
    (p.models.map fun m => m.fields.map fun f => (f.name, fieldHint m f)) =
      [[("Node", "Optional['Node']"), ("kind", "Optional[NodeKindEnum]")]] ∧
    ∀ m ∈ p.models, ∀ before g after, m.fields = before ++ g :: after → ∀ f ∈ g :: after,
      ∀ name ∈ modelSymbols ++ (p.models.map Model.name ++ p.enums.map Enumeration.name),
        Occurs name (fieldHint m f) → g.name ≠ name := by
  have hbuilds : builds nodes {} (fun p =>
      (p.models.map fun m => m.fields.map fun f => (f.name, fieldHint m f)) ==
        [[("Node", "Optional['Node']"), ("kind", "Optional[NodeKindEnum]")]] &&
      p.models.all fun m => m.fields.all fun f => m.fields.all fun g =>
        (f.kind.isForward || f.kind.model? != some g.name) &&
          f.kind.enumeration?.all fun name => !decide (Occurs g.name name)) = true := by
    decide +kernel
  obtain ⟨p, hp, htest⟩ := exists_of_builds hbuilds
  obtain ⟨hhints, hall⟩ := Bool.and_eq_true_iff.1 htest
  refine ⟨p, hp, eq_of_beq hhints, (not_shadowed_iff nodes {} p hp).2 ?_⟩
  intro m hm before g after heq f hf
  have hfield := List.all_eq_true.1 hall m hm
  rw [heq] at hfield
  have htested := List.all_eq_true.1 (List.all_eq_true.1 hfield f (List.mem_append_right _ hf)) g
    (List.mem_append_right _ List.mem_cons_self)
  obtain ⟨hmodel, henum⟩ := Bool.and_eq_true_iff.1 htested
  refine ⟨?_, ?_⟩
  · rintro name hpart rfl
    obtain ⟨hname, hforward⟩ := Kind.part_model_iff.1 hpart
    simp [hname, hforward] at hmodel
  · intro name hpart hoccurs
    rw [Kind.part_enumeration_iff.1 hpart] at henum
    simp [hoccurs] at henum

/-- A pet, and an order with a property that is called like the pet. -/
def orderOfPet : Json := .object [
  ("openapi", .string "3.0.0"),
  ("paths", .object []),
  ("components", .object [("schemas", .object [
    ("Pet", .object [
      ("type", .string "object"),
      ("properties", .object [("id", .object [("type", .string "integer")])])]),
    ("Order", .object [
      ("type", .string "object"),
      ("properties", .object [
        ("Pet", .object [("$ref", .string "#/components/schemas/Pet")])])])])])]

theorem shadowed_orderOfPet :
    ∃ d p, Document.ofJson orderOfPet = .ok d ∧ build d {} = .ok p ∧
      p.models.map Model.name = ["Pet", "Order"] ∧
      (p.models.map fun m => m.fields.map fun f => (f.name, fieldHint m f)) =
        [[("id", "Optional[int]")], [("Pet", "Optional[Pet]")]] ∧
      ¬∀ m ∈ p.models, ∀ before g after, m.fields = before ++ g :: after → ∀ f ∈ g :: after,
        ∀ name ∈ modelSymbols ++ (p.models.map Model.name ++ p.enums.map Enumeration.name),
          Occurs name (fieldHint m f) → g.name ≠ name := by
  have hgenerates : generates orderOfPet {} (fun p =>
      p.models.map Model.name == ["Pet", "Order"] &&
      (p.models.map fun m => m.fields.map fun f => (f.name, fieldHint m f)) ==
        [[("id", "Optional[int]")], [("Pet", "Optional[Pet]")]]) = true := by decide +kernel
  obtain ⟨d, p, hd, hp, htest⟩ := exists_of_generates hgenerates
  obtain ⟨hnames, hhints⟩ := Bool.and_eq_true_iff.1 htest
  have hnames := eq_of_beq hnames
  have hhints := eq_of_beq hhints
  refine ⟨d, p, hd, hp, hnames, hhints, ?_⟩
  intro hall
  have hmem : [("Pet", "Optional[Pet]")] ∈
      p.models.map fun m => m.fields.map fun f => (f.name, fieldHint m f) := by
    rw [hhints]
    simp
  obtain ⟨m, hm, hfields⟩ := List.mem_map.1 hmem
  obtain ⟨f, hfield, hf⟩ := List.map_eq_singleton_iff.1 hfields
  obtain ⟨hname, hhint⟩ := Prod.mk.inj hf
  refine hall m hm [] f [] hfield f List.mem_cons_self "Pet" ?_ ?_ hname
  · rw [hnames]
    simp
  · rw [hhint]
    decide

end TypedClient.Render
