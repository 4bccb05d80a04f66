import Mathlib.Algebra.Order.Field.Power
import Mathlib.Algebra.Order.Field.Rat
import Mathlib.Tactic.FieldSimp
import Mathlib.Tactic.Linarith
import Mathlib.Tactic.Positivity
import Mathlib.Tactic.Ring
import StarPlan.Number.Shortest

/-!
# The values of magnitudes

A decimal and a binary64 magnitude each have a rational value. All comparisons of the two are made
on naturals, multiplied out; here they are comparisons of values, and what reads back to a
magnitude is what rounds to it as a rational (`Binary.readsBack_iff`).
-/

namespace StarPlan

/-- A power with an integer exponent is one natural power over another. -/
theorem zpow_eq_div (b : ℚ) (z : ℤ) : b ^ z = b ^ z.toNat / b ^ (-z).toNat := by
  obtain ⟨n, rfl | rfl⟩ := z.eq_nat_or_neg
  · rw [Int.toNat_neg_natCast, Int.toNat_natCast, pow_zero, div_one, zpow_natCast]
  · rw [neg_neg, Int.toNat_neg_natCast, Int.toNat_natCast, pow_zero, one_div, zpow_neg,
      zpow_natCast]

namespace Decimal

/-- The value of a decimal. -/
def value (d : Decimal) : ℚ := d.digits * 10 ^ d.exponent

theorem value_eq_zero_iff {d : Decimal} : d.value = 0 ↔ d.digits = 0 := by
  have power : (10 : ℚ) ^ d.exponent ≠ 0 := by positivity
  rw [value, mul_eq_zero, or_iff_left power, Nat.cast_eq_zero]

/-- The same value with more digits. -/
theorem value_shift (digits k : ℕ) (e : ℤ) :
    (⟨digits * 10 ^ k, e⟩ : Decimal).value = (⟨digits, e + k⟩ : Decimal).value := by
  have split : (10 : ℚ) ^ (e + k) = 10 ^ e * 10 ^ k := by
    rw [zpow_add₀ (by norm_num), zpow_natCast]
  simp only [value, Nat.cast_mul, Nat.cast_pow, Nat.cast_ofNat, split]
  ring

theorem value_stripZeros (d : Decimal) (fuel : ℕ) : (d.stripZeros fuel).value = d.value := by
  induction fuel generalizing d with
  | zero => rfl
  | succ fuel ih =>
      rw [stripZeros]
      split
      · next ends =>
        have digits : d.digits = d.digits / 10 * 10 ^ 1 := by omega
        have shift := value_shift (d.digits / 10) 1 d.exponent
        rw [← digits] at shift
        rw [ih]
        exact shift.symm
      · rfl

end Decimal

namespace Binary

/-- The value of a magnitude. -/
def value (x : Binary) : ℚ := x.m * 2 ^ x.q

theorem num_eq (x : Binary) : x.num = x.m * 2 ^ x.q.toNat := rfl

theorem den_eq (x : Binary) : x.den = 2 ^ (-x.q).toNat := rfl

theorem den_pos (x : Binary) : 0 < x.den := by
  rw [den_eq]
  positivity

theorem value_eq_div (x : Binary) : x.value = x.num / x.den := by
  rw [value, num_eq, den_eq, zpow_eq_div 2]
  push_cast
  ring

/-! Comparisons. -/

/-- The two sides of a comparison are the two values, multiplied by the same. -/
theorem compareScaled_sides (d : Decimal) (n : ℕ) (j : ℤ) : ∃ s : ℚ, 0 < s ∧
    (d.digits * 10 ^ d.exponent.toNat * 2 ^ (-j).toNat : ℕ) = d.value * s ∧
    (n * 2 ^ j.toNat * 10 ^ (-d.exponent).toNat : ℕ) = n * 2 ^ j * s := by
  refine ⟨10 ^ (-d.exponent).toNat * 2 ^ (-j).toNat, by positivity, ?_, ?_⟩
  · rw [Decimal.value, zpow_eq_div 10]
    push_cast
    field_simp
  · rw [zpow_eq_div 2]
    push_cast
    field_simp

theorem compareScaled_eq_lt_iff {d : Decimal} {n : ℕ} {j : ℤ} :
    compareScaled d n j = .lt ↔ d.value < n * 2 ^ j := by
  obtain ⟨s, positive, left, right⟩ := compareScaled_sides d n j
  rw [← mul_lt_mul_iff_left₀ positive, ← left, ← right, Nat.cast_lt]
  exact Nat.compare_eq_lt

theorem compareScaled_eq_gt_iff {d : Decimal} {n : ℕ} {j : ℤ} :
    compareScaled d n j = .gt ↔ n * 2 ^ j < d.value := by
  obtain ⟨s, positive, left, right⟩ := compareScaled_sides d n j
  rw [← mul_lt_mul_iff_left₀ positive, ← left, ← right, Nat.cast_lt]
  exact Nat.compare_eq_gt

theorem compareScaled_eq_eq_iff {d : Decimal} {n : ℕ} {j : ℤ} :
    compareScaled d n j = .eq ↔ d.value = n * 2 ^ j := by
  obtain ⟨s, positive, left, right⟩ := compareScaled_sides d n j
  rw [← mul_left_inj' positive.ne', ← left, ← right, Nat.cast_inj]
  exact Nat.compare_eq_eq

/-! The reals that round to a magnitude. -/

/-- The lower end of what rounds to a magnitude, in quarters of its last binary digit. -/
def low (x : Binary) : ℕ := if x.narrowBelow then 4 * x.m - 1 else 4 * x.m - 2

/-- A rational rounds to a magnitude: it lies between two ends, which count if the magnitude is
even. -/
structure RoundedFrom (x : Binary) (v : ℚ) : Prop where
  above : x.low * 2 ^ (x.q - 2) < v ∨ x.m % 2 = 0 ∧ v = x.low * 2 ^ (x.q - 2)
  below : v < (4 * x.m + 2 : ℕ) * 2 ^ (x.q - 2) ∨
    x.m % 2 = 0 ∧ v = (4 * x.m + 2 : ℕ) * 2 ^ (x.q - 2)

theorem readsBack_iff {x : Binary} {d : Decimal} :
    x.readsBack d = true ↔ x.RoundedFrom d.value := by
  have ends : x.readsBack d = true ↔ (x.low * 2 ^ (x.q - 2) < d.value ∨
      x.m % 2 = 0 ∧ d.value = x.low * 2 ^ (x.q - 2)) ∧
      (d.value < (4 * x.m + 2 : ℕ) * 2 ^ (x.q - 2) ∨
        x.m % 2 = 0 ∧ d.value = (4 * x.m + 2 : ℕ) * 2 ^ (x.q - 2)) := by
    simp only [readsBack, low, Bool.and_eq_true, Bool.or_eq_true, beq_iff_eq,
      compareScaled_eq_lt_iff, compareScaled_eq_gt_iff, compareScaled_eq_eq_iff]
  exact ends.trans ⟨fun h => ⟨h.1, h.2⟩, fun h => ⟨h.above, h.below⟩⟩

/-- Four quarters are one. -/
theorem zpow_sub_two (q : ℤ) : (2 : ℚ) ^ (q - 2) = 2 ^ q / 4 := by
  rw [zpow_sub₀ two_ne_zero]
  norm_num

/-- What rounds to a magnitude is at most half a last digit away. -/
theorem RoundedFrom.bounds {x : Binary} {v : ℚ} (rounded : x.RoundedFrom v) :
    (x.m - 1 / 2) * 2 ^ x.q ≤ v ∧ v ≤ (x.m + 1 / 2) * 2 ^ x.q := by
  obtain ⟨above, below⟩ := rounded
  have unit : (0 : ℚ) < 2 ^ x.q := by positivity
  rw [zpow_sub_two] at above below
  constructor
  · have low : (4 * x.m - 2 : ℚ) ≤ x.low := by
      have natural : 4 * x.m ≤ x.low + 2 := by
        unfold Binary.low
        split <;> omega
      have cast : ((4 * x.m : ℕ) : ℚ) ≤ (x.low + 2 : ℕ) := Nat.cast_le.2 natural
      push_cast at cast
      linarith
    have ends : (x.low : ℚ) * (2 ^ x.q / 4) ≤ v := above.elim le_of_lt fun h => h.2.ge
    have scaled := mul_le_mul_of_nonneg_right low (by positivity : (0 : ℚ) ≤ 2 ^ x.q / 4)
    linarith
  · have ends : v ≤ (4 * x.m + 2 : ℕ) * (2 ^ x.q / 4) := below.elim le_of_lt fun h => h.2.le
    push_cast at ends
    linarith

end Binary

end StarPlan
