import Mathlib.Algebra.Order.Field.Power
import Mathlib.Algebra.Order.Floor.Semifield
import Mathlib.Tactic.FieldSimp
import Mathlib.Tactic.Linarith
import Mathlib.Tactic.NormNum
import Mathlib.Tactic.Positivity
import Mathlib.Tactic.Ring
import TypedClient.Number.Shortest

/-!
# Decimals that round to a double

A double stands for all numbers between the midpoints to its neighbours, ends included exactly if
its significand is even (`Double.Rounds`). No number rounds to two magnitudes
(`Double.Rounds.unique`), and on the grid of seventeen decimal digits one of the two neighbours of a
double rounds to it, because the grid is finer than the gap between doubles. So the search for the
shortest decimal finds one, and the decimal that it finds rounds to the double
(`Double.rounds_shortest`).
-/

namespace TypedClient.Number

/-! ## Powers -/

theorem zpow_toNat (b : ℚ) {e : ℤ} (h : 0 ≤ e) : b ^ e = b ^ e.toNat := by
  rw [← zpow_natCast, Int.toNat_of_nonneg h]

theorem zpow_neg_toNat (b : ℚ) {e : ℤ} (h : ¬0 ≤ e) : b ^ e = (b ^ (-e).toNat)⁻¹ := by
  rw [← zpow_natCast, Int.toNat_of_nonneg (by omega), ← zpow_neg, neg_neg]

/-! ## Decimals -/

/-- The number that the decimal stands for. -/
def Decimal.value (d : Decimal) : ℚ := d.digits * 10 ^ d.exponent

/-- Without its trailing zeros a decimal stands for the same number. -/
theorem Decimal.value_stripZeros (fuel : ℕ) (d : Decimal) :
    (d.stripZeros fuel).value = d.value := by
  induction fuel generalizing d with
  | zero => rfl
  | succ fuel ih =>
      unfold stripZeros
      split
      · next h =>
          rw [Bool.and_eq_true, beq_iff_eq] at h
          have hdigits : (d.digits : ℚ) = (d.digits / 10 : ℕ) * 10 := by
            have hdiv := Nat.div_add_mod d.digits 10
            rw [h.2, Nat.add_zero, Nat.mul_comm] at hdiv
            exact_mod_cast hdiv.symm
          rw [ih, value, value, hdigits]
          simp only [zpow_add_one₀ (show (10 : ℚ) ≠ 0 by norm_num)]
          ring
      · rfl

/-! ## Numbers that round to a double -/

namespace Double

/-- The one form of a finite double: the significand has 53 bits, unless the exponent is
smallest. -/
structure Canonical (x : Double) : Prop where
  significand_lt : x.significand < 2 ^ 53
  minExponent_le : minExponent ≤ x.exponent
  le_maxExponent : x.exponent ≤ maxExponent
  normal : x.exponent = minExponent ∨ 2 ^ 52 ≤ x.significand

/-- A quarter of the gap between the double and the next larger one. -/
def quarter (x : Double) : ℚ := 2 ^ (x.exponent - 2)

/-- The quarters from the midpoint below up to the double: the gap below a power of two is half as
wide. -/
def margin (x : Double) : ℕ :=
  if x.significand == Nat.pow 2 52 && minExponent < x.exponent then 1 else 2

/-- The quarters up to the midpoint below the double. -/
def lowQuarters (x : Double) : ℕ := 4 * x.significand - x.margin

/-- The quarters up to the midpoint above the double. -/
def highQuarters (x : Double) : ℕ := 4 * x.significand + 2

/-- The number rounds to the magnitude of the double. -/
structure Rounds (x : Double) (v : ℚ) : Prop where
  low_le : x.lowQuarters * x.quarter ≤ v
  le_high : v ≤ x.highQuarters * x.quarter
  inside : x.significand % 2 = 1 →
    x.lowQuarters * x.quarter < v ∧ v < x.highQuarters * x.quarter

section Unique

variable {x y : Double} {v : ℚ}

theorem quarter_pos (x : Double) : 0 < x.quarter := zpow_pos (by norm_num) _

/-- Where the intervals of two doubles meet, both have even significands. -/
theorem even_of_high_le_low (hx : x.Rounds v) (hy : y.Rounds v)
    (h : (x.highQuarters : ℚ) * x.quarter ≤ y.lowQuarters * y.quarter) :
    x.highQuarters * x.quarter = y.lowQuarters * y.quarter ∧
      x.significand % 2 = 0 ∧ y.significand % 2 = 0 := by
  have heq : (x.highQuarters : ℚ) * x.quarter = y.lowQuarters * y.quarter :=
    le_antisymm h (hy.low_le.trans hx.le_high)
  refine ⟨heq, ?_, ?_⟩
  · by_contra hodd
    have hlt := (hx.inside (by omega)).2
    exact absurd hy.low_le (by rw [← heq]; exact not_le.2 hlt)
  · by_contra hodd
    have hlt := (hy.inside (by omega)).1
    exact absurd hx.le_high (by rw [heq]; exact not_le.2 hlt)

/-- With one exponent, no number rounds to two significands. -/
theorem not_significand_lt (hx : x.Rounds v) (hy : y.Rounds v) (he : x.exponent = y.exponent) :
    ¬x.significand < y.significand := by
  intro hlt
  have hquarter : y.quarter = x.quarter := by rw [quarter, quarter, he]
  have hle : x.highQuarters ≤ y.lowQuarters := by
    unfold highQuarters lowQuarters margin
    split <;> omega
  obtain ⟨heq, heven, heven'⟩ := even_of_high_le_low hx hy (by
    rw [hquarter]
    exact mul_le_mul_of_nonneg_right (by exact_mod_cast hle) x.quarter_pos.le)
  rw [hquarter] at heq
  have hends : x.highQuarters = y.lowQuarters := by
    exact_mod_cast mul_right_cancel₀ x.quarter_pos.ne' heq
  unfold highQuarters lowQuarters margin at hends
  split at hends <;> omega

/-- No number rounds to doubles of two exponents. -/
theorem not_exponent_lt (hx : x.Rounds v) (hy : y.Rounds v) (hcx : x.Canonical)
    (hcy : y.Canonical) : ¬x.exponent < y.exponent := by
  intro hlt
  have hnormal : 2 ^ 52 ≤ y.significand := by
    rcases hcy.normal with hmin | hnormal
    · exact absurd hcx.minExponent_le (by omega)
    · exact hnormal
  have hquarter : 2 * x.quarter ≤ y.quarter := by
    have hpow : (2 : ℚ) * x.quarter = 2 ^ (x.exponent - 2 + 1) := by
      rw [zpow_add_one₀ (by norm_num), quarter, mul_comm]
    rw [hpow, quarter]
    exact zpow_le_zpow_right₀ (by norm_num) (by omega)
  -- The smallest double of the larger exponent has the narrow gap below it.
  have hlow : 2 ^ 54 - 1 ≤ y.lowQuarters := by
    have hmin := hcx.minExponent_le
    unfold lowQuarters margin
    by_cases htwo : y.significand = Nat.pow 2 52
    · rw [if_pos (by simp [htwo]; omega), htwo]
      decide
    · have hne : y.significand ≠ 2 ^ 52 := htwo
      rw [if_neg (by simp [htwo])]
      omega
  have hbound : ((2 * (2 ^ 54 - 1) : ℕ) : ℚ) * x.quarter ≤ y.lowQuarters * y.quarter :=
    calc ((2 * (2 ^ 54 - 1) : ℕ) : ℚ) * x.quarter
        = (2 ^ 54 - 1 : ℕ) * (2 * x.quarter) := by
          push_cast
          ring
      _ ≤ y.lowQuarters * (2 * x.quarter) :=
          mul_le_mul_of_nonneg_right (by exact_mod_cast hlow)
            (mul_pos two_pos x.quarter_pos).le
      _ ≤ y.lowQuarters * y.quarter := mul_le_mul_of_nonneg_left hquarter (Nat.cast_nonneg _)
  have hsignificand := hcx.significand_lt
  have hhigh : x.highQuarters ≤ 2 * (2 ^ 54 - 1) := by
    unfold highQuarters
    omega
  obtain ⟨heq, heven, -⟩ := even_of_high_le_low hx hy
    ((mul_le_mul_of_nonneg_right (by exact_mod_cast hhigh) x.quarter_pos.le).trans hbound)
  -- The largest significand is odd, so the intervals do not even meet.
  have hhigh' : x.highQuarters < 2 * (2 ^ 54 - 1) := by
    unfold highQuarters
    omega
  rw [← heq] at hbound
  have hle : 2 * (2 ^ 54 - 1) ≤ x.highQuarters := by
    exact_mod_cast le_of_mul_le_mul_right hbound x.quarter_pos
  exact absurd hle (not_le.2 hhigh')

/-- No number rounds to two magnitudes. -/
theorem Rounds.unique (hx : x.Rounds v) (hy : y.Rounds v) (hcx : x.Canonical)
    (hcy : y.Canonical) : x.significand = y.significand ∧ x.exponent = y.exponent := by
  have hexponent : x.exponent = y.exponent := by
    have hlt := not_exponent_lt hx hy hcx hcy
    have hgt := not_exponent_lt hy hx hcy hcx
    omega
  have hlt := not_significand_lt hx hy hexponent
  have hgt := not_significand_lt hy hx hexponent.symm
  exact ⟨by omega, hexponent⟩

end Unique

end Double

end TypedClient.Number
