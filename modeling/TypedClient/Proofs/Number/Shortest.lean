import Mathlib.Data.Nat.Cast.Order.Field
import TypedClient.Proofs.Number.Rounding

/-!
# The shortest decimal of a double

The search for the shortest decimal of a nonzero double succeeds, and the decimal that it finds
rounds to the double (`Double.rounds_shortest`): on the grid of seventeen decimal digits one of the
two neighbours of a double rounds to it, because the grid is finer than the gap between doubles. So
the shortest decimal tells the magnitude (`Double.magnitude_inj`).
-/

namespace TypedClient.Number

/-! ## Intervals -/

section Contains

variable {low high num den unit : ℕ} {v : ℚ}

theorem cast_mul_le_iff (hden : 0 < den) (hv : (num : ℚ) = v * den) :
    low * den ≤ num * unit ↔ (low : ℚ) ≤ v * unit := by
  rw [← @Nat.cast_le ℚ, Nat.cast_mul, Nat.cast_mul, hv, mul_right_comm]
  exact mul_le_mul_iff_of_pos_right (by exact_mod_cast hden)

theorem mul_cast_le_iff (hden : 0 < den) (hv : (num : ℚ) = v * den) :
    num * unit ≤ high * den ↔ v * unit ≤ (high : ℚ) := by
  rw [← @Nat.cast_le ℚ, Nat.cast_mul, Nat.cast_mul, hv, mul_right_comm]
  exact mul_le_mul_iff_of_pos_right (by exact_mod_cast hden)

end Contains

theorem Decimal.exists_ratio (d : Decimal) :
    ∃ num den : ℕ, (if 0 ≤ d.exponent then (d.digits * Nat.pow 10 d.exponent.toNat, 1)
      else (d.digits, Nat.pow 10 (-d.exponent).toNat)) = (num, den) ∧
      0 < den ∧ (num : ℚ) = d.value * den := by
  by_cases hexponent : 0 ≤ d.exponent
  · refine ⟨_, _, if_pos hexponent, one_pos, ?_⟩
    rw [value, zpow_toNat 10 hexponent]
    push_cast [Nat.pow_eq]
    ring
  · refine ⟨_, _, if_neg hexponent, Nat.pow_pos (by norm_num), ?_⟩
    rw [value, zpow_neg_toNat 10 hexponent]
    push_cast [Nat.pow_eq]
    field_simp

theorem Interval.contains_iff (i : Interval) (d : Decimal) :
    i.contains d = true ↔ (i.low ≤ d.value * i.unit ∧ d.value * i.unit ≤ i.high) ∧
      (i.closed = false → i.low < d.value * i.unit ∧ d.value * i.unit < i.high) := by
  obtain ⟨num, den, hratio, hden, hvalue⟩ := d.exists_ratio
  unfold contains
  rw [hratio]
  cases hclosed : i.closed with
  | true =>
      simp only [if_true, Bool.and_eq_true, decide_eq_true_eq, cast_mul_le_iff hden hvalue,
        mul_cast_le_iff hden hvalue]
      simp
  | false =>
      simp only [Bool.false_eq_true, if_false, Bool.and_eq_true, decide_eq_true_eq, ← not_le,
        cast_mul_le_iff hden hvalue, mul_cast_le_iff hden hvalue]
      simp only [not_le, forall_const]
      exact ⟨fun h => ⟨⟨h.1.le, h.2.le⟩, h⟩, fun h => h.2⟩

namespace Double

theorem unit_pos (x : Double) : (0 : ℚ) < x.interval.unit := by
  have hunit : 0 < x.interval.unit := by
    simp only [interval, Nat.shiftLeft_eq]
    positivity
  exact_mod_cast hunit

theorem cast_shiftLeft (n : ℕ) (e : ℤ) :
    ((n <<< (if 0 ≤ e then e.toNat else 0) : ℕ) : ℚ) =
      n * (2 : ℚ) ^ e * ((1 <<< (if 0 ≤ e then 0 else (-e).toNat) : ℕ) : ℚ) := by
  rw [Nat.shiftLeft_eq, Nat.shiftLeft_eq]
  split
  · next he =>
      rw [zpow_toNat 2 he]
      push_cast
      ring
  · next he =>
      rw [zpow_neg_toNat 2 he]
      push_cast
      field_simp

theorem low_interval (x : Double) :
    (x.interval.low : ℚ) = x.lowQuarters * x.quarter * x.interval.unit :=
  cast_shiftLeft x.lowQuarters (x.exponent - 2)

theorem value_interval (x : Double) :
    (x.interval.value : ℚ) = (4 * x.significand : ℕ) * x.quarter * x.interval.unit :=
  cast_shiftLeft (4 * x.significand) (x.exponent - 2)

theorem high_interval (x : Double) :
    (x.interval.high : ℚ) = x.highQuarters * x.quarter * x.interval.unit :=
  cast_shiftLeft x.highQuarters (x.exponent - 2)

/-- The interval of a double holds the decimals that round to it. -/
theorem contains_interval_iff (x : Double) (d : Decimal) :
    x.interval.contains d = true ↔ x.Rounds d.value := by
  have hclosed : x.interval.closed = false ↔ x.significand % 2 = 1 := by
    have hdef : x.interval.closed = (x.significand % 2 == 0) := rfl
    rw [hdef, beq_eq_false_iff_ne]
    omega
  rw [Interval.contains_iff, hclosed, low_interval, high_interval]
  simp only [mul_le_mul_iff_of_pos_right x.unit_pos, mul_lt_mul_iff_of_pos_right x.unit_pos]
  exact ⟨fun h => ⟨h.1.1, h.1.2, h.2⟩, fun h => ⟨⟨h.low_le, h.le_high⟩, h.inside⟩⟩

end Double

/-! ## The grid of seventeen digits -/

/-- The leading digit stands at most where it should. -/
theorem zpow_leadingExponent_le {num den : ℕ} (hnum : 0 < num) (hden : 0 < den) :
    (10 : ℚ) ^ leadingExponent num den ≤ num / den := by
  have hden' : (0 : ℚ) < den := by exact_mod_cast hden
  unfold leadingExponent
  simp only
  split
  · next hle =>
      have hpos : 0 < num / den := Nat.div_pos hle hden
      have hlength : 10 ^ ((Nat.toDigits 10 (num / den)).length - 1) ≤ num / den := by
        by_cases hone : (Nat.toDigits 10 (num / den)).length - 1 = 0
        · rw [hone]
          exact hpos
        · by_contra hlt
          have := (Nat.length_toDigits_le_iff (by norm_num) (by omega)).2 (not_le.1 hlt)
          omega
      have hone : 1 ≤ (Nat.toDigits 10 (num / den)).length := Nat.length_toDigits_pos
      calc (10 : ℚ) ^ (((Nat.toDigits 10 (num / den)).length : ℤ) - 1)
          = ((10 ^ ((Nat.toDigits 10 (num / den)).length - 1) : ℕ) : ℚ) := by
            rw [← Nat.cast_one, ← Nat.cast_sub hone, zpow_natCast]
            push_cast
            rfl
        _ ≤ ((num / den : ℕ) : ℚ) := by exact_mod_cast hlength
        _ ≤ num / den := Nat.cast_div_le
  · next hlt =>
      split
      · next heq =>
          rw [beq_iff_eq, Nat.pow_eq] at heq
          have hone : 1 ≤ (Nat.toDigits 10 (den / num)).length := Nat.length_toDigits_pos
          have hpow : (10 : ℚ) ^ (1 - ((Nat.toDigits 10 (den / num)).length : ℤ)) =
              ((10 : ℚ) ^ ((Nat.toDigits 10 (den / num)).length - 1))⁻¹ := by
            rw [← zpow_natCast, ← zpow_neg, Nat.cast_sub hone]
            congr 1
            push_cast
            ring
          have hcast : (num : ℚ) * 10 ^ ((Nat.toDigits 10 (den / num)).length - 1) = den := by
            exact_mod_cast heq
          rw [hpow, le_div_iff₀ hden', ← hcast]
          field_simp
          exact le_rfl
      · have hlt : den / num < 10 ^ (Nat.toDigits 10 (den / num)).length :=
          (Nat.length_toDigits_le_iff (by norm_num) Nat.length_toDigits_pos).1 le_rfl
        have hbound : den ≤ num * 10 ^ (Nat.toDigits 10 (den / num)).length :=
          ((Nat.lt_mul_div_succ den hnum).trans_le (Nat.mul_le_mul_left num hlt)).le
        have hcast : (den : ℚ) ≤ num * 10 ^ (Nat.toDigits 10 (den / num)).length := by
          exact_mod_cast hbound
        rw [zpow_neg, zpow_natCast, le_div_iff₀ hden', inv_mul_le_iff₀ (by positivity), mul_comm]
        exact hcast

theorem Interval.contains_of_nearest? {i : Interval} {n : ℕ} {d : Decimal}
    (h : i.nearest? n = some d) : i.contains d = true := by
  unfold nearest? at h
  simp only at h
  split at h
  · next hbelow habove =>
      rcases ite_eq_iff.1 (Option.some.inj h) with ⟨-, rfl⟩ | ⟨-, rfl⟩
      · exact hbelow
      · exact habove
  · next hbelow _ =>
      cases h
      exact hbelow
  · next _ habove =>
      cases h
      exact habove
  · cases h

/-- If nothing is found, neither neighbour on the grid lies in the interval, and these are one step
apart. -/
theorem Interval.exists_neighbours {i : Interval} {n : ℕ} (h : i.nearest? n = none)
    (hunit : 0 < i.unit) :
    ∃ below above : Decimal, i.contains below = false ∧ i.contains above = false ∧
      below.value ≤ i.value / i.unit ∧ (i.value : ℚ) / i.unit < above.value ∧
      above.value =
        below.value + 10 ^ (leadingExponent i.value i.unit - ((n : ℤ) - 1)) := by
  unfold nearest? at h
  simp only at h
  generalize leadingExponent i.value i.unit - ((n : ℤ) - 1) = p at h ⊢
  have hp : (0 : ℚ) < 10 ^ p := zpow_pos (by norm_num) p
  obtain ⟨num, den, hratio, hden, hvalue⟩ : ∃ num den : ℕ,
      (if 0 ≤ p then (i.value, i.unit * Nat.pow 10 p.toNat)
        else (i.value * Nat.pow 10 (-p).toNat, i.unit)) = (num, den) ∧ 0 < den ∧
      (i.value : ℚ) / i.unit = num / den * 10 ^ p := by
    have hunit' : (0 : ℚ) < i.unit := by exact_mod_cast hunit
    by_cases hpos : 0 ≤ p
    · refine ⟨_, _, if_pos hpos, Nat.mul_pos hunit (Nat.pow_pos (by norm_num)), ?_⟩
      rw [zpow_toNat 10 hpos]
      push_cast [Nat.pow_eq]
      field_simp
    · refine ⟨_, _, if_neg hpos, hunit, ?_⟩
      rw [zpow_neg_toNat 10 hpos]
      push_cast [Nat.pow_eq]
      field_simp
  have hden' : (0 : ℚ) < den := by exact_mod_cast hden
  rw [hratio] at h
  refine ⟨⟨num / den, p⟩, ⟨num / den + 1, p⟩, ?_, ?_, ?_, ?_, ?_⟩
  · revert h
    split <;> simp_all
  · revert h
    split <;> simp_all
  · rw [hvalue, Decimal.value]
    exact mul_le_mul_of_nonneg_right Nat.cast_div_le hp.le
  · rw [hvalue, Decimal.value]
    apply mul_lt_mul_of_pos_right _ hp
    rw [div_lt_iff₀ hden']
    have hlt := Nat.lt_mul_div_succ num hden
    rw [mul_comm] at hlt
    exact_mod_cast hlt
  · simp only [Decimal.value]
    push_cast
    ring

namespace Double

variable {x y : Double}

/-- The grid of seventeen digits is finer than the interval of a double. -/
theorem step_lt_width (hx : x.Canonical) (hpos : 0 < x.significand) :
    (10 : ℚ) ^ (leadingExponent x.interval.value x.interval.unit - ((17 : ℕ) - 1 : ℤ)) <
      x.highQuarters * x.quarter - x.lowQuarters * x.quarter := by
  have hunit := x.unit_pos
  have hquarter := x.quarter_pos
  have hvalue : (x.interval.value : ℚ) / x.interval.unit = (4 * x.significand : ℕ) * x.quarter := by
    rw [value_interval, mul_div_assoc, div_self hunit.ne', mul_one]
  have hvaluePos : 0 < x.interval.value := by
    have hprod : (0 : ℚ) < x.interval.value := by
      rw [value_interval]
      have hcast : (0 : ℚ) < (4 * x.significand : ℕ) := by exact_mod_cast Nat.mul_pos four_pos hpos
      positivity
    exact_mod_cast hprod
  have hlead := zpow_leadingExponent_le hvaluePos (by exact_mod_cast hunit)
  rw [hvalue] at hlead
  have hwidth : 4 * x.significand < 10 ^ 16 * (x.highQuarters - x.lowQuarters) := by
    have hlt := hx.significand_lt
    unfold highQuarters lowQuarters margin
    split
    · next h =>
        rw [Bool.and_eq_true, beq_iff_eq] at h
        have hpow : x.significand = 2 ^ 52 := h.1
        omega
    · omega
  have hle : x.lowQuarters ≤ x.highQuarters := by
    unfold highQuarters lowQuarters
    omega
  have hstep : (10 : ℚ) ^ (leadingExponent x.interval.value x.interval.unit - ((17 : ℕ) - 1 : ℤ)) =
      10 ^ leadingExponent x.interval.value x.interval.unit / 10 ^ 16 := by
    rw [zpow_sub₀ (by norm_num)]
    norm_num
  rw [hstep, div_lt_iff₀ (by norm_num)]
  calc (10 : ℚ) ^ leadingExponent x.interval.value x.interval.unit
      ≤ (4 * x.significand : ℕ) * x.quarter := hlead
    _ < (10 ^ 16 * (x.highQuarters - x.lowQuarters) : ℕ) * x.quarter :=
        mul_lt_mul_of_pos_right (by exact_mod_cast hwidth) hquarter
    _ = (x.highQuarters * x.quarter - x.lowQuarters * x.quarter) * 10 ^ 16 := by
        push_cast [Nat.cast_sub hle]
        ring

/-- Seventeen digits are enough for every double. -/
theorem exists_nearest? (hx : x.Canonical) (hpos : 0 < x.significand) :
    ∃ d, x.interval.nearest? 17 = some d := by
  by_contra hnone
  have hnone : x.interval.nearest? 17 = none := by
    rw [Option.eq_none_iff_forall_ne_some]
    exact fun d hd => hnone ⟨d, hd⟩
  have hunit := x.unit_pos
  obtain ⟨below, above, hbelow, habove, hle, hlt, hstep⟩ :=
    Interval.exists_neighbours hnone (by exact_mod_cast hunit)
  rw [value_interval, mul_div_assoc, div_self hunit.ne', mul_one] at hle hlt
  rw [Bool.eq_false_iff, ne_eq, contains_interval_iff] at hbelow habove
  have hquarter := x.quarter_pos
  have hlow : x.lowQuarters * x.quarter < (4 * x.significand : ℕ) * x.quarter := by
    apply mul_lt_mul_of_pos_right _ hquarter
    have hmargin : x.lowQuarters < 4 * x.significand := by
      unfold lowQuarters margin
      split <;> omega
    exact_mod_cast hmargin
  have hhigh : (4 * x.significand : ℕ) * x.quarter < x.highQuarters * x.quarter := by
    apply mul_lt_mul_of_pos_right _ hquarter
    have hmargin : 4 * x.significand < x.highQuarters := by
      unfold highQuarters
      omega
    exact_mod_cast hmargin
  -- Neither neighbour lies inside, so a whole step covers the interval.
  have hbelow' : below.value ≤ x.lowQuarters * x.quarter := by
    by_contra hgt
    rw [not_le] at hgt
    exact hbelow ⟨hgt.le, (hle.trans_lt hhigh).le, fun _ => ⟨hgt, hle.trans_lt hhigh⟩⟩
  have habove' : x.highQuarters * x.quarter ≤ above.value := by
    by_contra hgt
    rw [not_le] at hgt
    exact habove ⟨(hlow.trans hlt).le, hgt.le, fun _ => ⟨hlow.trans hlt, hgt⟩⟩
  have hwidth := step_lt_width hx hpos
  linarith

/-- The shortest decimal of a nonzero double rounds to it. -/
theorem rounds_shortest (hx : x.Canonical) (hpos : 0 < x.significand) :
    x.Rounds x.shortest.value := by
  have hzero : x.isZero = false := by
    rw [isZero, beq_eq_false_iff_ne]
    omega
  unfold shortest
  rw [if_neg (by simp [hzero])]
  cases hfound : (List.range 17).findSome? fun n => x.interval.nearest? (n + 1) with
  | none =>
      obtain ⟨d, hd⟩ := exists_nearest? hx hpos
      have hlast := List.findSome?_eq_none_iff.1 hfound 16 (by decide)
      rw [hd] at hlast
      cases hlast
  | some d =>
      obtain ⟨n, -, hn⟩ := List.exists_of_findSome?_eq_some hfound
      simp only [hfound, Decimal.value_stripZeros]
      exact (x.contains_interval_iff d).1 (Interval.contains_of_nearest? hn)

theorem digits_shortest_ne_zero (hx : x.Canonical) (hpos : 0 < x.significand) :
    x.shortest.digits ≠ 0 := by
  intro hzero
  have hlow := (rounds_shortest hx hpos).low_le
  rw [Decimal.value, hzero, Nat.cast_zero, zero_mul] at hlow
  have hlowPos : 0 < x.lowQuarters := by
    unfold lowQuarters margin
    split <;> omega
  have hprod : (0 : ℚ) < x.lowQuarters * x.quarter :=
    mul_pos (by exact_mod_cast hlowPos) x.quarter_pos
  exact absurd hlow (not_le.2 hprod)

/-- The zero of a sign is the only double without significand. -/
theorem exponent_of_significand_eq_zero (hx : x.Canonical) (hzero : x.significand = 0) :
    x.exponent = minExponent := by
  rcases hx.normal with hmin | hnormal
  · exact hmin
  · rw [hzero] at hnormal
    exact absurd hnormal (by norm_num)

theorem value_shortest_of_significand_eq_zero (hzero : x.significand = 0) :
    x.shortest.value = 0 := by
  unfold shortest
  rw [if_pos (by simp [isZero, hzero])]
  simp [Decimal.value]

theorem value_shortest_eq_zero_iff (hx : x.Canonical) :
    x.shortest.value = 0 ↔ x.significand = 0 := by
  constructor
  · intro hvalue
    by_contra hne
    apply digits_shortest_ne_zero hx (Nat.pos_of_ne_zero hne)
    rw [Decimal.value, mul_eq_zero] at hvalue
    rcases hvalue with hdigits | hpow
    · exact_mod_cast hdigits
    · exact absurd hpow (zpow_ne_zero _ (by norm_num))
  · exact value_shortest_of_significand_eq_zero

/-- The number that the shortest decimal stands for tells the magnitude of the double. -/
theorem magnitude_inj (hx : x.Canonical) (hy : y.Canonical)
    (h : x.shortest.value = y.shortest.value) :
    x.significand = y.significand ∧ x.exponent = y.exponent := by
  by_cases hzero : x.significand = 0
  · have hzero' : y.significand = 0 := by
      rw [← value_shortest_eq_zero_iff hy, ← h, value_shortest_eq_zero_iff hx, hzero]
    rw [hzero, hzero', exponent_of_significand_eq_zero hx hzero,
      exponent_of_significand_eq_zero hy hzero']
    exact ⟨rfl, rfl⟩
  · have hzero' : y.significand ≠ 0 := by
      rw [ne_eq, ← value_shortest_eq_zero_iff hy, ← h, value_shortest_eq_zero_iff hx]
      exact hzero
    have hrounds := rounds_shortest hx (Nat.pos_of_ne_zero hzero)
    rw [h] at hrounds
    exact hrounds.unique (rounds_shortest hy (Nat.pos_of_ne_zero hzero')) hx hy

end Double

end TypedClient.Number
