import Mathlib.Data.List.Nodup
import TypedClient.Json.Printer
import TypedClient.Proofs.Lists
import TypedClient.Proofs.Number.WrittenForm

/-!
# The written form of JSON values

A value in which no object repeats a key and every double is in its one form is `Proper`. Two proper
values that are written alike are one value (`text_inj`): a text tells how each value in it starts,
and behind a value stands nothing that a number could run on into. A proper value is equal to itself
(`same_self`).
-/

namespace TypedClient.Json

open Number
open Number.Double (isNumeralChar isNumeralChar_of_isDigit)

/-! ## Proper values -/

mutual

/-- No object repeats a key, and every double is in its one form. -/
def Proper : Json → Prop
  | number (.double x) => x.Canonical
  | array items => ProperItems items
  | object members => (members.map Prod.fst).Nodup ∧ ProperMembers members
  | _ => True

/-- All items are proper. -/
def ProperItems : List Json → Prop
  | [] => True
  | v :: rest => Proper v ∧ ProperItems rest

/-- The values of all members are proper. -/
def ProperMembers : List (String × Json) → Prop
  | [] => True
  | (_, v) :: rest => Proper v ∧ ProperMembers rest

end

/-! ## Equality -/

/-- Members that stand among others with distinct keys are found there. -/
theorem sameMembers_of_subset {members others : List (String × Json)}
    (hkeys : (others.map Prod.fst).Nodup) (hsubset : members ⊆ others)
    (hsame : ∀ m ∈ members, same m.2 m.2 = true) : sameMembers members others = true := by
  induction members with
  | nil => simp [sameMembers]
  | cons m rest ih =>
      obtain ⟨key, value⟩ := m
      have hfind : find? key others = some value :=
        Plan.lookup_of_mem hkeys (hsubset List.mem_cons_self)
      rw [sameMembers, hfind, Bool.and_eq_true]
      exact ⟨hsame _ List.mem_cons_self,
        ih (fun m hm => hsubset (List.mem_cons_of_mem _ hm))
          fun m hm => hsame m (List.mem_cons_of_mem _ hm)⟩

mutual

/-- A proper value is equal to itself. -/
theorem same_self : ∀ v : Json, v.Proper → same v v = true
  | null, _ => by simp [same]
  | bool _, _ => by simp [same]
  | number n, _ => by simp [same, JsonNumber.same_refl]
  | string _, _ => by simp [same]
  | array items, h => by
      rw [same]
      exact sameItems_self items h
  | object members, h => by
      rw [same, beq_self_eq_true, Bool.true_and]
      exact sameMembers_of_subset h.1 (List.Subset.refl _) (same_self_members members h.2)

theorem sameItems_self : ∀ items : List Json, ProperItems items → sameItems items items = true
  | [], _ => by simp [sameItems]
  | v :: rest, h => by
      rw [sameItems, same_self v h.1, sameItems_self rest h.2]
      rfl

theorem same_self_members : ∀ members : List (String × Json), ProperMembers members →
    ∀ m ∈ members, same m.2 m.2 = true
  | [], _ => fun _ hm => absurd hm List.not_mem_nil
  | (_, v) :: rest, h => by
      intro m hm
      rcases List.mem_cons.1 hm with rfl | hm
      · exact same_self v h.1
      · exact same_self_members rest h.2 m hm

end

/-! ## Texts -/

/-- Reads one character as it is written between quotes. -/
def readEscaped : List Char → Option (Char × List Char)
  | '\\' :: 'u' :: _ :: _ :: high :: low :: rest =>
    (Text.hexValue? high).bind fun a =>
      (Text.hexValue? low).map fun b => (Char.ofNat (16 * a + b), rest)
  | '\\' :: 'n' :: rest => some ('\n', rest)
  | '\\' :: 'r' :: rest => some ('\r', rest)
  | '\\' :: 't' :: rest => some ('\t', rest)
  | '\\' :: 'b' :: rest => some ('\x08', rest)
  | '\\' :: 'f' :: rest => some ('\x0c', rest)
  | '\\' :: c :: rest => some (c, rest)
  | '"' :: _ => none
  | c :: rest => some (c, rest)
  | [] => none

theorem readEscaped_of_ne {c : Char} (hslash : c ≠ '\\') (hquote : c ≠ '"') (rest : List Char) :
    readEscaped (c :: rest) = some (c, rest) := by
  unfold readEscaped
  split <;> simp_all

theorem readEscaped_escapeChar (c : Char) (rest : List Char) :
    readEscaped (escapeChar c ++ rest) = some (c, rest) := by
  unfold escapeChar
  split
  case h_8 hquote hslash _ _ _ _ _ =>
    split
    · next hlt =>
        have hhigh := (Text.hexValue?_hexDigit (n := c.toNat / 16) (by omega)).1
        have hlow := (Text.hexValue?_hexDigit (n := c.toNat % 16) (by omega)).1
        simp only [List.cons_append, List.nil_append, readEscaped, hhigh, hlow, Option.bind_some,
          Option.map_some]
        rw [Nat.div_add_mod, Char.ofNat_toNat]
    · exact readEscaped_of_ne hslash hquote rest
  all_goals rfl

/-- A text between quotes tells its characters and what stands behind it. -/
theorem escaped_append_inj {cs ds r s : List Char}
    (h : cs.flatMap escapeChar ++ '"' :: r = ds.flatMap escapeChar ++ '"' :: s) :
    cs = ds ∧ r = s := by
  have hquote : ∀ rest, readEscaped ('"' :: rest) = none := fun _ => rfl
  induction cs generalizing ds with
  | nil =>
      cases ds with
      | nil => exact ⟨rfl, (List.cons.inj h).2⟩
      | cons d ds =>
          have hread := congrArg readEscaped h
          rw [List.flatMap_nil, List.nil_append, hquote, List.flatMap_cons, List.append_assoc,
            readEscaped_escapeChar] at hread
          cases hread
  | cons c cs ih =>
      cases ds with
      | nil =>
          have hread := congrArg readEscaped h
          rw [List.flatMap_nil, List.nil_append, hquote, List.flatMap_cons, List.append_assoc,
            readEscaped_escapeChar] at hread
          cases hread
      | cons d ds =>
          have hread := congrArg readEscaped h
          rw [List.flatMap_cons, List.append_assoc, readEscaped_escapeChar, List.flatMap_cons,
            List.append_assoc, readEscaped_escapeChar, Option.some.injEq, Prod.mk.injEq] at hread
          obtain ⟨rfl, hrest⟩ := hread
          obtain ⟨rfl, rfl⟩ := ih hrest
          exact ⟨rfl, rfl⟩

theorem quoteChars_append_inj {a b : String} {r s : List Char}
    (h : quoteChars a.toList ++ r = quoteChars b.toList ++ s) : a = b ∧ r = s := by
  unfold quoteChars at h
  simp only [List.cons_append, List.append_assoc, List.nil_append] at h
  obtain ⟨hchars, hrest⟩ := escaped_append_inj (List.cons.inj h).2
  exact ⟨String.toList_inj.1 hchars, hrest⟩

/-! ## Numbers -/

theorem toList_text_int (n : Int) : (JsonNumber.int n).text.toList =
    (if n < 0 then ['-'] else []) ++ digitChars n.natAbs := by
  change (toString n).toList = _
  rw [Int.toString_eq_repr, Int.repr_eq_if]
  by_cases hneg : n < 0
  · rw [if_neg (by omega), if_pos hneg, String.toList_append, Nat.toList_repr,
      show (-n).toNat = n.natAbs by omega]
    rfl
  · rw [if_pos (by omega), if_neg hneg, Nat.toList_repr, show n.toNat = n.natAbs by omega]
    rfl

theorem isDigit_or_minus_of_mem_int {n : Int} {c : Char}
    (h : c ∈ (JsonNumber.int n).text.toList) : c.isDigit = true ∨ c = '-' := by
  rw [toList_text_int, List.mem_append] at h
  rcases h with h | h
  · split at h
    · exact Or.inr (List.mem_singleton.1 h)
    · cases h
  · exact Or.inl (isDigit_of_mem_digitChars h)

theorem toList_text_double (x : Double) : (JsonNumber.double x).text.toList = x.text :=
  String.toList_ofList

/-- The sign of a whole number and its digits are told by its written form. -/
theorem int_text_inj {a b : Int}
    (h : (JsonNumber.int a).text.toList = (JsonNumber.int b).text.toList) : a = b := by
  rw [toList_text_int, toList_text_int] at h
  have hminus : ∀ m n : Nat, '-' :: digitChars m ≠ digitChars n := by
    intro m n heq
    have hdigit := isDigit_of_mem_digitChars (n := n) (heq ▸ List.mem_cons_self)
    exact absurd hdigit (by decide)
  have hdigits : ∀ m n : Nat, digitChars m = digitChars n → m = n := by
    intro m n heq
    rw [← digitsNumber_digitChars m, heq, digitsNumber_digitChars]
  split at h <;> split at h
  · have habs := hdigits _ _ (List.cons.inj h).2
    omega
  · exact absurd h (hminus _ _)
  · exact absurd h.symm (hminus _ _)
  · have habs := hdigits _ _ h
    omega

theorem int_text_ne_double (n : Int) (x : Double) :
    (JsonNumber.int n).text.toList ≠ (JsonNumber.double x).text.toList := by
  intro h
  rw [toList_text_double] at h
  rcases x.notWhole_text with hmem | hmem <;>
  · rw [← h] at hmem
    rcases isDigit_or_minus_of_mem_int hmem with hdigit | hminus
    · exact absurd hdigit (by decide)
    · exact absurd hminus (by decide)

theorem number_text_inj {m n : JsonNumber} (hm : (number m).Proper) (hn : (number n).Proper)
    (h : m.text.toList = n.text.toList) : m = n := by
  cases m with
  | int a =>
      cases n with
      | int b => rw [int_text_inj h]
      | double y => exact absurd h (int_text_ne_double a y)
  | double x =>
      cases n with
      | int b => exact absurd h.symm (int_text_ne_double b x)
      | double y =>
          rw [toList_text_double, toList_text_double] at h
          rw [Double.text_inj hm hn h]

theorem isNumeralChar_of_mem_number {n : JsonNumber} {c : Char} (h : c ∈ n.text.toList) :
    isNumeralChar c = true := by
  cases n with
  | int a =>
      rcases isDigit_or_minus_of_mem_int h with hdigit | rfl
      · exact isNumeralChar_of_isDigit hdigit
      · decide
  | double x =>
      rw [toList_text_double] at h
      exact Double.isNumeralChar_of_mem_text h

theorem number_text_ne_nil (n : JsonNumber) : n.text.toList ≠ [] := by
  cases n with
  | int a =>
      rw [toList_text_int]
      exact List.append_ne_nil_of_right_ne_nil _ Nat.toDigits_ne_nil
  | double x =>
      rw [toList_text_double]
      rcases x.notWhole_text with hmem | hmem <;> exact List.ne_nil_of_mem hmem

/-! ## Values -/

/-- No number runs on into the text. -/
def Ends (rest : List Char) : Prop := ∀ c ∈ rest.head?, isNumeralChar c = false

theorem ends_nil : Ends [] := fun _ hc => by cases hc

theorem ends_cons {c : Char} (h : isNumeralChar c = false) (rest : List Char) :
    Ends (c :: rest) := by
  intro d hd
  cases hd
  exact h

theorem ends_charsItems (items : List Json) (rest : List Char) :
    Ends (charsItems items ++ rest) := by
  cases items <;> exact ends_cons (by decide) _

theorem ends_charsMembers (members : List (String × Json)) (rest : List Char) :
    Ends (charsMembers members ++ rest) := by
  cases members <;> exact ends_cons (by decide) _

/-- Up to a text that numbers do not run on into, all characters belong to the number. -/
theorem takeWhile_number {n : JsonNumber} {rest : List Char} (h : Ends rest) :
    (n.text.toList ++ rest).takeWhile isNumeralChar = n.text.toList := by
  rw [List.takeWhile_append_of_pos fun c hc => isNumeralChar_of_mem_number hc]
  cases rest with
  | nil => simp
  | cons c cs => rw [List.takeWhile_cons_of_neg (by simp [h c rfl]), List.append_nil]

/-- The character that a value other than a number starts with. -/
def mark : Json → Option Char
  | null => some 'n'
  | bool true => some 't'
  | bool false => some 'f'
  | number _ => none
  | string _ => some '"'
  | array _ => some '['
  | object _ => some '\x7b'

/-- The start of a value: its mark, or a character of its number. -/
theorem head?_chars (v : Json) (rest : List Char) :
    ∃ c, (v.chars ++ rest).head? = some c ∧
      ((v.mark = some c ∧ isNumeralChar c = false) ∨ (v.mark = none ∧ isNumeralChar c = true)) := by
  cases v with
  | null => exact ⟨_, rfl, Or.inl ⟨rfl, by decide⟩⟩
  | bool b => cases b <;> exact ⟨_, rfl, Or.inl ⟨rfl, by decide⟩⟩
  | number n =>
      obtain ⟨c, cs, hcons⟩ := List.exists_cons_of_ne_nil (number_text_ne_nil n)
      refine ⟨c, ?_, Or.inr ⟨rfl, ?_⟩⟩
      · rw [chars, hcons]
        rfl
      · exact isNumeralChar_of_mem_number (hcons ▸ List.mem_cons_self)
  | string s => exact ⟨_, rfl, Or.inl ⟨rfl, by decide⟩⟩
  | array items => cases items <;> exact ⟨_, rfl, Or.inl ⟨rfl, by decide⟩⟩
  | object members => cases members <;> exact ⟨_, rfl, Or.inl ⟨rfl, by decide⟩⟩

theorem mark_eq {v w : Json} {r s : List Char} (h : v.chars ++ r = w.chars ++ s) :
    v.mark = w.mark := by
  obtain ⟨c, hc, hv⟩ := head?_chars v r
  obtain ⟨d, hd, hw⟩ := head?_chars w s
  rw [h, hd] at hc
  cases hc
  rcases hv with ⟨hv, hnumber⟩ | ⟨hv, hnumber⟩ <;> rcases hw with ⟨hw, hnumber'⟩ | ⟨hw, hnumber'⟩
  · rw [hv, hw]
  · rw [hnumber] at hnumber'
    cases hnumber'
  · rw [hnumber] at hnumber'
    cases hnumber'
  · rw [hv, hw]

/-- The two values have the same form, and the same content if it is no number, text, list or
object. -/
inductive Alike : Json → Json → Prop where
  | null : Alike null null
  | bool (b : Bool) : Alike (bool b) (bool b)
  | number (m n : JsonNumber) : Alike (number m) (number n)
  | string (a b : String) : Alike (string a) (string b)
  | array (xs ys : List Json) : Alike (array xs) (array ys)
  | object (ms others : List (String × Json)) : Alike (object ms) (object others)

theorem alike_of_mark_eq {v w : Json} (h : v.mark = w.mark) : Alike v w := by
  rcases v with _ | (_ | _) | m | a | xs | ms <;>
    rcases w with _ | (_ | _) | n | b | ys | others <;>
    first
    | constructor
    | cases h

theorem alike_of_chars_append_eq {v w : Json} {r s : List Char}
    (h : v.chars ++ r = w.chars ++ s) : Alike v w := alike_of_mark_eq (mark_eq h)

theorem chars_append_ne_bracket (v : Json) (r s : List Char) : v.chars ++ r ≠ ']' :: s := by
  intro h
  obtain ⟨c, hc, hv⟩ := head?_chars v r
  rw [h] at hc
  cases hc
  rcases hv with ⟨hmark, -⟩ | ⟨-, hnumber⟩
  · cases v with
    | bool b => cases b <;> cases hmark
    | _ => cases hmark
  · exact absurd hnumber (by decide)

/-! ## Values are told by their written form -/

mutual

/-- Proper values that are written alike, whatever stands behind them, are one value. -/
theorem chars_append_inj : ∀ (v w : Json) {r s : List Char}, v.Proper → w.Proper → Ends r →
    Ends s → v.chars ++ r = w.chars ++ s → v = w ∧ r = s
  | null, w, _, _, _, _, _, _, h => by
      cases alike_of_chars_append_eq h
      exact ⟨rfl, List.append_cancel_left h⟩
  | bool a, w, _, _, _, _, _, _, h => by
      cases alike_of_chars_append_eq h
      exact ⟨rfl, List.append_cancel_left h⟩
  | number m, w, _, _, hv, hw, hr, hs, h => by
      cases alike_of_chars_append_eq h
      have htext := congrArg (List.takeWhile isNumeralChar) h
      rw [chars, chars, takeWhile_number hr, takeWhile_number hs] at htext
      obtain rfl := number_text_inj hv hw htext
      exact ⟨rfl, List.append_cancel_left h⟩
  | string a, w, _, _, _, _, _, _, h => by
      cases alike_of_chars_append_eq h
      obtain ⟨rfl, hrest⟩ := quoteChars_append_inj h
      exact ⟨rfl, hrest⟩
  | array [], w, _, _, _, _, _, _, h => by
      obtain _ | _ | _ | _ | ⟨_, _ | ⟨y, ys⟩⟩ := alike_of_chars_append_eq h
      · exact ⟨rfl, List.append_cancel_left h⟩
      · simp only [chars, List.cons_append, List.append_assoc, List.cons.injEq, true_and] at h
        exact absurd h.symm (chars_append_ne_bracket y _ _)
  | array (x :: xs), w, r, s, hv, hw, _, _, h => by
      obtain _ | _ | _ | _ | ⟨_, _ | ⟨y, ys⟩⟩ := alike_of_chars_append_eq h
      · simp only [chars, List.cons_append, List.append_assoc, List.cons.injEq, true_and] at h
        exact absurd h (chars_append_ne_bracket x _ _)
      · simp only [chars, List.cons_append, List.append_assoc, List.cons.injEq, true_and] at h
        obtain ⟨rfl, hitems⟩ := chars_append_inj x y hv.1 hw.1 (ends_charsItems xs r)
          (ends_charsItems ys s) h
        obtain ⟨rfl, hbehind⟩ := charsItems_append_inj xs ys hv.2 hw.2 hitems
        exact ⟨rfl, hbehind⟩
  | object [], w, _, _, _, _, _, _, h => by
      obtain _ | _ | _ | _ | _ | ⟨_, _ | ⟨m, others⟩⟩ := alike_of_chars_append_eq h
      · exact ⟨rfl, List.append_cancel_left h⟩
      · cases (List.cons.inj h).2
  | object ((k, v) :: ms), w, r, s, hv, hw, _, _, h => by
      obtain _ | _ | _ | _ | _ | ⟨_, _ | ⟨⟨l, u⟩, others⟩⟩ := alike_of_chars_append_eq h
      · cases (List.cons.inj h).2
      · simp only [chars, List.cons_append, List.append_assoc, List.cons.injEq, true_and] at h
        obtain ⟨rfl, hbehind⟩ := quoteChars_append_inj h
        have hvalues := (List.cons.inj hbehind).2
        obtain ⟨rfl, hmembers⟩ := chars_append_inj v u hv.2.1 hw.2.1 (ends_charsMembers ms r)
          (ends_charsMembers others s) hvalues
        obtain ⟨rfl, hend⟩ := charsMembers_append_inj ms others hv.2.2 hw.2.2 hmembers
        exact ⟨rfl, hend⟩

theorem charsItems_append_inj : ∀ (xs ys : List Json) {r s : List Char}, ProperItems xs →
    ProperItems ys → charsItems xs ++ r = charsItems ys ++ s → xs = ys ∧ r = s
  | [], [], _, _, _, _, h => ⟨rfl, List.append_cancel_left h⟩
  | [], _ :: _, _, _, _, _, h => by cases h
  | _ :: _, [], _, _, _, _, h => by cases h
  | x :: xs, y :: ys, r, s, hxs, hys, h => by
      simp only [charsItems, List.cons_append, List.append_assoc, List.cons.injEq, true_and] at h
      obtain ⟨rfl, hitems⟩ := chars_append_inj x y hxs.1 hys.1 (ends_charsItems xs r)
        (ends_charsItems ys s) h
      obtain ⟨rfl, hbehind⟩ := charsItems_append_inj xs ys hxs.2 hys.2 hitems
      exact ⟨rfl, hbehind⟩

theorem charsMembers_append_inj : ∀ (ms others : List (String × Json)) {r s : List Char},
    ProperMembers ms → ProperMembers others → charsMembers ms ++ r = charsMembers others ++ s →
    ms = others ∧ r = s
  | [], [], _, _, _, _, h => ⟨rfl, List.append_cancel_left h⟩
  | [], _ :: _, _, _, _, _, h => by cases h
  | _ :: _, [], _, _, _, _, h => by cases h
  | (k, v) :: ms, (l, u) :: others, r, s, hms, hothers, h => by
      simp only [charsMembers, List.cons_append, List.append_assoc, List.cons.injEq, true_and] at h
      obtain ⟨rfl, hbehind⟩ := quoteChars_append_inj h
      have hvalues := (List.cons.inj hbehind).2
      obtain ⟨rfl, hmembers⟩ := chars_append_inj v u hms.1 hothers.1 (ends_charsMembers ms r)
        (ends_charsMembers others s) hvalues
      obtain ⟨rfl, hend⟩ := charsMembers_append_inj ms others hms.2 hothers.2 hmembers
      exact ⟨rfl, hend⟩

end

/-- Proper values that are written alike are one value. -/
theorem text_inj {v w : Json} (hv : v.Proper) (hw : w.Proper) (h : v.text = w.text) : v = w := by
  have hchars : v.chars ++ [] = w.chars ++ [] := by rw [String.ofList_injective h]
  exact (chars_append_inj v w hv hw ends_nil ends_nil hchars).1

end TypedClient.Json
