import Mathlib.Data.List.TakeWhile
import TypedClient.Proofs.Number.Shortest

/-!
# The written form of a double

A double is written by the digits of its shortest decimal, around a point or in front of a power of
ten. Read again by the value of its digits, the text gives the number that the decimal stands for
(`Double.writtenValue_magnitudeText`), so that no two doubles are written alike (`Double.text_inj`).
-/

namespace TypedClient.Number

/-! ## Digits -/

theorem isDigit_of_mem_digitChars {n : ℕ} {c : Char} (h : c ∈ digitChars n) : c.isDigit = true :=
  Nat.isDigit_of_mem_toDigits (by norm_num) (by norm_num) h

theorem not_mem_of_isDigit {cs : List Char} (h : ∀ c ∈ cs, c.isDigit = true) {d : Char}
    (hd : d.isDigit = false) : d ∉ cs := by
  intro hmem
  rw [h d hmem] at hd
  cases hd

theorem isDigit_of_mem_zeros {n : ℕ} {c : Char} (h : c ∈ List.replicate n '0') :
    c.isDigit = true := by
  rw [List.eq_of_mem_replicate h]
  decide

/-- The value of digits. -/
def digitsNumber (cs : List Char) : ℕ := Nat.ofDigitChars 10 cs 0

theorem digitsNumber_digitChars (n : ℕ) : digitsNumber (digitChars n) = n :=
  Nat.ofDigitChars_ten_toDigits

theorem digitsNumber_append (cs ds : List Char) :
    digitsNumber (cs ++ ds) = 10 ^ ds.length * digitsNumber cs + digitsNumber ds := by
  rw [digitsNumber, Nat.ofDigitChars_append, Nat.ofDigitChars_eq_ofDigitChars_zero]
  rfl

theorem digitsNumber_zeros (n : ℕ) : digitsNumber (List.replicate n '0') = 0 := by
  rw [digitsNumber, Nat.ofDigitChars_replicate_zero, Nat.mul_zero]

/-! ## Reading -/

/-- The number that digits around a point stand for. -/
def pointValue (cs : List Char) : ℚ :=
  let fraction := (cs.dropWhile (· != '.')).drop 1
  digitsNumber (cs.takeWhile (· != '.') ++ fraction) / 10 ^ fraction.length

/-- The number that a text stands for: digits around a point, and perhaps a power of ten. -/
def writtenValue (cs : List Char) : ℚ :=
  let mantissa := pointValue (cs.takeWhile (· != 'e'))
  match cs.dropWhile (· != 'e') with
  | 'e' :: '+' :: ds => mantissa * 10 ^ digitsNumber ds
  | 'e' :: '-' :: ds => mantissa / 10 ^ digitsNumber ds
  | _ => mantissa

section Reading

variable {cs ds : List Char} {mark : Char}

theorem takeWhile_append_mark (h : mark ∉ cs) :
    (cs ++ mark :: ds).takeWhile (· != mark) = cs := by
  have hcs : ∀ c ∈ cs, (c != mark) = true := fun c hc => bne_iff_ne.2 fun heq => h (heq ▸ hc)
  rw [List.takeWhile_append_of_pos hcs, List.takeWhile_cons_of_neg (by simp), List.append_nil]

theorem dropWhile_append_mark (h : mark ∉ cs) :
    (cs ++ mark :: ds).dropWhile (· != mark) = mark :: ds := by
  have hcs : ∀ c ∈ cs, (c != mark) = true := fun c hc => bne_iff_ne.2 fun heq => h (heq ▸ hc)
  rw [List.dropWhile_append_of_pos hcs, List.dropWhile_cons_of_neg (by simp)]

theorem takeWhile_of_not_mem (h : mark ∉ cs) : cs.takeWhile (· != mark) = cs :=
  List.takeWhile_eq_self_iff.2 fun _ hc => bne_iff_ne.2 fun heq => h (heq ▸ hc)

theorem dropWhile_of_not_mem (h : mark ∉ cs) : cs.dropWhile (· != mark) = [] :=
  List.dropWhile_eq_nil_iff.2 fun _ hc => bne_iff_ne.2 fun heq => h (heq ▸ hc)

theorem pointValue_append_point (h : '.' ∉ cs) :
    pointValue (cs ++ '.' :: ds) = digitsNumber (cs ++ ds) / 10 ^ ds.length := by
  unfold pointValue
  rw [takeWhile_append_mark h, dropWhile_append_mark h]
  rfl

theorem pointValue_of_not_mem (h : '.' ∉ cs) : pointValue cs = digitsNumber cs := by
  unfold pointValue
  rw [takeWhile_of_not_mem h, dropWhile_of_not_mem h]
  simp

theorem writtenValue_of_not_mem (h : 'e' ∉ cs) : writtenValue cs = pointValue cs := by
  unfold writtenValue
  rw [takeWhile_of_not_mem h, dropWhile_of_not_mem h]

theorem writtenValue_append_plus (h : 'e' ∉ cs) :
    writtenValue (cs ++ 'e' :: '+' :: ds) = pointValue cs * 10 ^ digitsNumber ds := by
  unfold writtenValue
  rw [takeWhile_append_mark h, dropWhile_append_mark h]
  rfl

theorem writtenValue_append_minus (h : 'e' ∉ cs) :
    writtenValue (cs ++ 'e' :: '-' :: ds) = pointValue cs / 10 ^ digitsNumber ds := by
  unfold writtenValue
  rw [takeWhile_append_mark h, dropWhile_append_mark h]
  rfl

end Reading

/-! ## Decimals -/

namespace Decimal

/-- Around a point stand digits alone, at least one in front. -/
theorem positional_eq (d : Decimal) : ∃ whole fraction : List Char,
    d.positional true = whole ++ '.' :: fraction ∧ whole ≠ [] ∧
      (∀ c ∈ whole ++ fraction, c.isDigit = true) ∧
      (digitsNumber (whole ++ fraction) : ℚ) / 10 ^ fraction.length = d.value := by
  unfold positional value
  simp only [if_true]
  have hdigit : ∀ c ∈ digitChars d.digits, c.isDigit = true := fun _ => isDigit_of_mem_digitChars
  by_cases hexponent : 0 ≤ d.exponent
  · rw [if_pos hexponent]
    refine ⟨digitChars d.digits ++ List.replicate d.exponent.toNat '0', ['0'], by simp, ?_, ?_, ?_⟩
    · simp [digitChars]
    · intro c hc
      rw [List.append_assoc, List.mem_append, List.mem_append] at hc
      rcases hc with hc | hc | hc
      · exact hdigit c hc
      · exact isDigit_of_mem_zeros hc
      · exact isDigit_of_mem_zeros (n := 1) hc
    · rw [zpow_toNat 10 hexponent, digitsNumber_append, digitsNumber_append,
        digitsNumber_digitChars, digitsNumber_zeros, List.length_replicate,
        show digitsNumber ['0'] = 0 from rfl]
      push_cast
      simp only [List.length_singleton]
      field_simp
      ring
  · rw [if_neg hexponent, zpow_neg_toNat 10 hexponent]
    generalize (-d.exponent).toNat = places
    by_cases hplaces : places < (digitChars d.digits).length
    · rw [if_pos hplaces]
      refine ⟨_, _, rfl, ?_, ?_, ?_⟩
      · rw [ne_eq, List.take_eq_nil_iff]
        have hne : digitChars d.digits ≠ [] := Nat.toDigits_ne_nil
        simp only [hne, or_false]
        omega
      · rw [List.take_append_drop]
        exact hdigit
      · rw [List.take_append_drop, digitsNumber_digitChars, List.length_drop,
          Nat.sub_sub_self hplaces.le, div_eq_mul_inv]
    · rw [if_neg hplaces]
      refine ⟨['0'], _, rfl, by simp, ?_, ?_⟩
      · intro c hc
        rw [List.mem_append, List.mem_append] at hc
        rcases hc with hc | hc | hc
        · exact isDigit_of_mem_zeros (n := 1) hc
        · exact isDigit_of_mem_zeros hc
        · exact hdigit c hc
      · rw [digitsNumber_append, digitsNumber_append, digitsNumber_digitChars, digitsNumber_zeros,
          show digitsNumber ['0'] = 0 from rfl, List.length_append, List.length_replicate,
          Nat.sub_add_cancel (not_lt.1 hplaces), Nat.mul_zero, Nat.mul_zero, Nat.zero_add,
          Nat.zero_add, div_eq_mul_inv]

/-- In front of the power of ten stand digits, with a point behind the first if there are more. -/
theorem scientific_eq (d : Decimal) : ∃ mantissa : List Char, ∃ e : ℤ,
    d.scientific = mantissa ++ 'e' :: (if 0 ≤ e then '+' else '-') :: digitChars e.natAbs ∧
      (∀ c ∈ mantissa, c.isDigit = true ∨ c = '.') ∧
      (∃ c cs, mantissa = c :: cs ∧ c.isDigit = true) ∧
      pointValue mantissa * 10 ^ e = d.value := by
  have hdigit : ∀ c ∈ digitChars d.digits, c.isDigit = true := fun _ => isDigit_of_mem_digitChars
  have hnumber := digitsNumber_digitChars d.digits
  unfold scientific value
  simp only
  cases hds : digitChars d.digits with
  | nil => exact absurd hds Nat.toDigits_ne_nil
  | cons c cs =>
      rw [hds] at hdigit hnumber
      cases cs with
      | nil =>
          refine ⟨[c], _, rfl, fun b hb => Or.inl (hdigit b hb),
            ⟨c, [], rfl, hdigit c (by simp)⟩, ?_⟩
          rw [pointValue_of_not_mem (not_mem_of_isDigit hdigit (by decide)), hnumber]
          simp
      | cons b bs =>
          refine ⟨c :: '.' :: b :: bs, _, rfl, ?_, ⟨c, _, rfl, hdigit c (by simp)⟩, ?_⟩
          · intro a ha
            rw [List.mem_cons, List.mem_cons] at ha
            rcases ha with rfl | rfl | ha
            · exact Or.inl (hdigit _ (by simp))
            · exact Or.inr rfl
            · exact Or.inl (hdigit a (List.mem_cons_of_mem c ha))
          · have hc : '.' ∉ [c] :=
              not_mem_of_isDigit (fun a ha => hdigit a (by simp_all)) (by decide)
            have hpoint : pointValue (c :: '.' :: b :: bs) =
                d.digits / 10 ^ (b :: bs).length := by
              rw [← List.singleton_append, pointValue_append_point hc, List.singleton_append,
                hnumber]
            rw [hpoint]
            have hlength : ((c :: b :: bs).length : ℤ) - 1 = (b :: bs).length := by simp
            rw [add_sub_assoc, hlength, zpow_add₀ (by norm_num), zpow_natCast]
            field_simp

end Decimal

/-! ## Doubles -/

namespace Double

/-- The written form without its sign. -/
def magnitudeText (x : Double) : List Char :=
  let d := x.shortest
  let lead : Int := d.exponent + (digitChars d.digits).length - 1
  if d.digits == 0 then ['0', '.', '0']
  else if -5 ≤ lead && lead < 16 then d.positional true
  else d.scientific

theorem text_eq (x : Double) :
    x.text = (if x.negative then ['-'] else []) ++ x.magnitudeText := by
  unfold text magnitudeText
  simp only
  split
  · rfl
  · split <;> rfl

/-- A character that stands in the written form of a number. -/
def isNumeralChar (c : Char) : Bool :=
  c.isDigit || c == '.' || c == 'e' || c == '+' || c == '-'

theorem isNumeralChar_of_isDigit {c : Char} (h : c.isDigit = true) : isNumeralChar c = true := by
  simp [isNumeralChar, h]

/-- The three forms have in common that a digit stands in front, that a point or an exponent makes
them no whole number, and that they stand for the number of the decimal. -/
structure Written (cs : List Char) (v : ℚ) : Prop where
  value : writtenValue cs = v
  head : ∃ c ds, cs = c :: ds ∧ c.isDigit = true
  chars : ∀ c ∈ cs, isNumeralChar c = true
  notWhole : '.' ∈ cs ∨ 'e' ∈ cs

theorem written_positional (d : Decimal) : Written (d.positional true) d.value := by
  obtain ⟨whole, fraction, heq, hne, hdigit, hvalue⟩ := d.positional_eq
  have hwhole : ∀ c ∈ whole, c.isDigit = true := fun c hc => hdigit c (List.mem_append_left _ hc)
  have hfraction : ∀ c ∈ fraction, c.isDigit = true :=
    fun c hc => hdigit c (List.mem_append_right _ hc)
  rw [heq]
  refine ⟨?_, ?_, ?_, Or.inl (by simp)⟩
  · rw [writtenValue_of_not_mem, pointValue_append_point, hvalue]
    · exact not_mem_of_isDigit hwhole (by decide)
    · rw [List.mem_append, List.mem_cons]
      rintro (he | he | he)
      · exact not_mem_of_isDigit hwhole (by decide) he
      · exact absurd he (by decide)
      · exact not_mem_of_isDigit hfraction (by decide) he
  · obtain ⟨c, cs, rfl⟩ := List.exists_cons_of_ne_nil hne
    exact ⟨c, _, rfl, hwhole c List.mem_cons_self⟩
  · intro c hc
    rcases List.mem_append.1 hc with hc | hc
    · exact isNumeralChar_of_isDigit (hwhole c hc)
    · rcases List.mem_cons.1 hc with rfl | hc
      · decide
      · exact isNumeralChar_of_isDigit (hfraction c hc)

theorem written_scientific (d : Decimal) : Written d.scientific d.value := by
  obtain ⟨mantissa, e, heq, hchars, ⟨c, cs, hcons, hdigit⟩, hvalue⟩ := d.scientific_eq
  have he : 'e' ∉ mantissa := by
    intro hmem
    rcases hchars 'e' hmem with hdigit | hpoint
    · exact absurd hdigit (by decide)
    · exact absurd hpoint (by decide)
  rw [heq]
  refine ⟨?_, ⟨c, cs ++ _, by rw [hcons]; rfl, hdigit⟩, ?_, Or.inr (by simp)⟩
  · rw [← hvalue]
    by_cases hsign : 0 ≤ e
    · rw [if_pos hsign, writtenValue_append_plus he, digitsNumber_digitChars, ← zpow_natCast,
        Int.natAbs_of_nonneg hsign]
    · rw [if_neg hsign, writtenValue_append_minus he, digitsNumber_digitChars, ← zpow_natCast,
        Int.ofNat_natAbs_of_nonpos (by omega), zpow_neg, div_inv_eq_mul]
  · intro b hb
    rw [List.mem_append, List.mem_cons, List.mem_cons] at hb
    rcases hb with hb | rfl | hb | hb
    · rcases hchars b hb with hdigit | rfl
      · exact isNumeralChar_of_isDigit hdigit
      · decide
    · decide
    · split at hb <;> · rw [hb]; decide
    · exact isNumeralChar_of_isDigit (isDigit_of_mem_digitChars hb)

theorem written_zero : Written ['0', '.', '0'] 0 := by
  have hvalue : writtenValue ['0', '.', '0'] = pointValue (['0'] ++ '.' :: ['0']) :=
    writtenValue_of_not_mem (by decide)
  refine ⟨?_, ⟨'0', _, rfl, by decide⟩, List.all_eq_true.1 (by decide), by decide⟩
  rw [hvalue, pointValue_append_point (by decide), show digitsNumber (['0'] ++ ['0']) = 0 from rfl,
    Nat.cast_zero, zero_div]

/-- What a double is written as, apart from its sign. -/
theorem written_magnitudeText (x : Double) : Written x.magnitudeText x.shortest.value := by
  unfold magnitudeText
  simp only
  split
  · next hzero =>
      rw [Decimal.value, beq_iff_eq.1 hzero, Nat.cast_zero, zero_mul]
      exact written_zero
  · split
    · exact written_positional x.shortest
    · exact written_scientific x.shortest

theorem magnitudeText_eq_of_text_eq {x y : Double} (h : x.text = y.text) :
    x.negative = y.negative ∧ x.magnitudeText = y.magnitudeText := by
  obtain ⟨c, cs, hx, hc⟩ := x.written_magnitudeText.head
  obtain ⟨d, ds, hy, hd⟩ := y.written_magnitudeText.head
  have hminus : Char.isDigit '-' = false := by decide
  rw [text_eq, text_eq] at h
  cases hxn : x.negative <;> cases hyn : y.negative <;> rw [hxn, hyn] at h
  · exact ⟨rfl, h⟩
  · rw [hx] at h
    cases h
    rw [hminus] at hc
    cases hc
  · rw [hy] at h
    cases h
    rw [hminus] at hd
    cases hd
  · exact ⟨rfl, List.cons.inj h |>.2⟩

/-- No two doubles are written alike. -/
theorem text_inj {x y : Double} (hx : x.Canonical) (hy : y.Canonical) (h : x.text = y.text) :
    x = y := by
  obtain ⟨hsign, hmagnitude⟩ := magnitudeText_eq_of_text_eq h
  have hvalue : x.shortest.value = y.shortest.value := by
    rw [← x.written_magnitudeText.value, hmagnitude, y.written_magnitudeText.value]
  obtain ⟨hsignificand, hexponent⟩ := magnitude_inj hx hy hvalue
  cases x
  cases y
  simp_all

theorem isNumeralChar_of_mem_text {x : Double} {c : Char} (h : c ∈ x.text) :
    isNumeralChar c = true := by
  rw [text_eq, List.mem_append] at h
  rcases h with h | h
  · split at h
    · rw [List.mem_singleton.1 h]
      decide
    · cases h
  · exact x.written_magnitudeText.chars c h

theorem notWhole_text (x : Double) : '.' ∈ x.text ∨ 'e' ∈ x.text := by
  rw [text_eq, List.mem_append, List.mem_append]
  exact x.written_magnitudeText.notWhole.imp Or.inr Or.inr

end Double

end TypedClient.Number
