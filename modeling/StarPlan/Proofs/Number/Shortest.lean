import Mathlib.Data.Nat.Log
import StarPlan.Proofs.Number.Rounding

/-!
# Fifteen digits survive

The search for the shortest decimal goes through finer and finer grids. A decimal of at most
fifteen digits stands on one of them, and it is so far from its neighbours there that no other
one rounds to the same magnitude. So whenever such a decimal is read and its magnitude is written,
the value is the same (`Binary.shortest_value`).
-/

namespace StarPlan

namespace Binary

variable {x : Binary} {tie : Tie}

/-! One grid. -/

theorem floorOn_bounds (x : Binary) (e : ℤ) :
    (x.floorOn e : ℚ) * 10 ^ e ≤ x.value ∧ x.value < (x.floorOn e + 1 : ℕ) * 10 ^ e := by
  have positive : 0 < x.den * Nat.pow 10 e.toNat :=
    Nat.mul_pos x.den_pos (Nat.pow_pos (by decide))
  have positive' : (0 : ℚ) < (x.den * Nat.pow 10 e.toNat : ℕ) := Nat.cast_pos.2 positive
  have unit : (0 : ℚ) < 10 ^ e := by positivity
  have ratio : ((x.num * Nat.pow 10 (-e).toNat : ℕ) : ℚ) / (x.den * Nat.pow 10 e.toNat : ℕ) =
      x.value / 10 ^ e := by
    rw [value_eq_div, zpow_eq_div 10]
    push_cast [Nat.pow_eq]
    rw [div_div_eq_mul_div, div_mul_eq_mul_div, div_div]
  rw [← le_div_iff₀ unit, ← div_lt_iff₀ unit, ← ratio, le_div_iff₀ positive',
    div_lt_iff₀ positive']
  constructor
  · exact_mod_cast Nat.div_mul_le_self ..
  · have above := Nat.lt_mul_div_succ (x.num * Nat.pow 10 (-e).toNat) positive
    rw [mul_comm (x.den * _)] at above
    exact_mod_cast above

theorem onGrid?_sound {e : ℤ} {d : Decimal} (found : x.onGrid? tie e = some d) :
    d.exponent = e ∧ x.readsBack d = true := by
  unfold onGrid? at found
  dsimp only at found
  split at found
  · next lower upper =>
    obtain rfl := Option.some.inj found
    split
    · exact ⟨rfl, upper⟩
    · exact ⟨rfl, lower⟩
  · next lower _ =>
    obtain rfl := Option.some.inj found
    exact ⟨rfl, lower⟩
  · next _ upper =>
    obtain rfl := Option.some.inj found
    exact ⟨rfl, upper⟩
  · cases found

/-- If a point of a grid near a magnitude rounds to it, one is found. -/
theorem onGrid?_ne_none {d : Decimal} (back : x.readsBack d = true)
    (close : |d.value - x.value| < 10 ^ d.exponent) : x.onGrid? tie d.exponent ≠ none := by
  obtain ⟨digits, e⟩ := d
  have unit : (0 : ℚ) < 10 ^ e := by positivity
  obtain ⟨floor, ceiling⟩ := x.floorOn_bounds e
  obtain ⟨less, more⟩ := abs_lt.1 close
  simp only [Decimal.value] at less more
  have atLeast : (x.floorOn e : ℚ) < (digits + 1 : ℕ) := by
    rw [← mul_lt_mul_iff_left₀ unit]
    push_cast
    linarith
  have atMost : (digits : ℚ) < (x.floorOn e + 2 : ℕ) := by
    rw [← mul_lt_mul_iff_left₀ unit]
    push_cast at ceiling ⊢
    linarith
  rw [Nat.cast_lt] at atLeast atMost
  obtain rfl | rfl : digits = x.floorOn e ∨ digits = x.floorOn e + 1 := by omega
  · simp only [onGrid?, back]
    split <;> simp_all
  · simp only [onGrid?, back]
    split <;> simp_all

/-! The grids, one after another. -/

/-- Where the search for the scale begins, for a magnitude from `2 ^ bits` up to the next power. -/
def estimate (bits : ℤ) : ℤ := bits * 30103 / 100000 - 1

/-- The search begins at most two below the scale, for every exponent of the format. -/
theorem estimates : (List.range 2046).all (fun i : ℕ =>
    compareScaled ⟨1, estimate (i - 1022)⟩ 1 (i - 1022) != .gt &&
      compareScaled ⟨1, estimate (i - 1022) + 3⟩ 1 (i - 1021) != .lt) = true := by
  decide +kernel

theorem estimate_bounds {bits : ℤ} (least : -1022 ≤ bits) (most : bits ≤ 1023) :
    (10 : ℚ) ^ estimate bits ≤ 2 ^ bits ∧ (2 : ℚ) ^ (bits + 1) ≤ 10 ^ (estimate bits + 3) := by
  obtain ⟨i, rfl⟩ : ∃ i : ℕ, bits = i - 1022 := ⟨(bits + 1022).toNat, by omega⟩
  have checked := List.all_eq_true.1 estimates i (List.mem_range.2 (by omega))
  rw [Bool.and_eq_true, bne_iff_ne, bne_iff_ne, ne_eq, ne_eq, compareScaled_eq_gt_iff,
    compareScaled_eq_lt_iff, not_lt, not_lt] at checked
  simpa only [Decimal.value, Nat.cast_one, one_mul, show (i : ℤ) - 1021 = i - 1022 + 1 by ring]
    using checked

theorem scaleFrom_bounds (k K : ℤ) (fuel : ℕ) (start : k ≤ K) (enough : x.value < 10 ^ K) :
    k ≤ x.scaleFrom k fuel ∧ x.scaleFrom k fuel ≤ K := by
  induction fuel generalizing k with
  | zero => exact ⟨le_rfl, start⟩
  | succ fuel ih =>
      rw [scaleFrom]
      split
      · exact ⟨le_rfl, start⟩
      · next short =>
        have next : k + 1 ≤ K := by
          by_contra more
          obtain rfl : k = K := by omega
          refine short ?_
          rw [beq_iff_eq, compareScaled_eq_gt_iff, ← value]
          simpa only [Decimal.value, Nat.cast_one, one_mul] using enough
        obtain ⟨low, high⟩ := ih (k + 1) next
        exact ⟨by omega, high⟩

/-- The scale of a magnitude lies next to every power of ten near it. -/
theorem scale_bounds (normal : x.Normal) {K : ℤ} (lower : 10 ^ (K - 2) ≤ x.value)
    (upper : x.value < 10 ^ (K + 1)) : K - 4 ≤ x.scale ∧ x.scale ≤ K + 1 := by
  have least : 2 ^ 52 ≤ x.m := by exact_mod_cast normal.least
  have most : x.m < 2 ^ 53 := by exact_mod_cast normal.most
  have log : x.m.log2 = 52 := (Nat.log2_eq_iff (by omega)).2 ⟨least, most⟩
  have unit : (0 : ℚ) < 2 ^ x.q := by positivity
  obtain ⟨bits, bitsEq⟩ : ∃ bits, (52 : ℤ) + x.q = bits := ⟨_, rfl⟩
  have begins : (2 : ℚ) ^ bits ≤ x.value := by
    rw [← bitsEq, zpow_add₀ two_ne_zero]
    exact mul_le_mul_of_nonneg_right normal.least unit.le
  have ends : x.value < (2 : ℚ) ^ (bits + 1) := by
    rw [← bitsEq, add_right_comm, zpow_add₀ two_ne_zero]
    exact mul_lt_mul_of_pos_right normal.most unit
  have first : -1022 ≤ bits := by
    have := normal.lowest
    omega
  have last : bits ≤ 1023 := by
    have := normal.highest
    omega
  obtain ⟨low, high⟩ := estimate_bounds first last
  have above : estimate bits < K + 1 :=
    (zpow_lt_zpow_iff_right₀ (by norm_num : (1 : ℚ) < 10)).1 (by linarith)
  have below : K - 2 < estimate bits + 3 :=
    (zpow_lt_zpow_iff_right₀ (by norm_num : (1 : ℚ) < 10)).1 (by linarith)
  have found := x.scaleFrom_bounds (estimate bits) (K + 1) 4 above.le upper
  have scale : x.scale = x.scaleFrom (estimate bits) 4 := by
    rw [Binary.scale, log, ← bitsEq]
    rfl
  rw [scale]
  exact ⟨by omega, found.2⟩

/-- The first success in a range is at most any other. -/
theorem exists_of_findSome?_range {α : Type} {f : ℕ → Option α} {n i : ℕ} (less : i < n)
    (success : f i ≠ none) : ∃ j a, j ≤ i ∧ (List.range n).findSome? f = some a ∧ f j = some a := by
  induction n with
  | zero => cases less
  | succ n ih =>
      rw [List.range_succ, List.findSome?_append]
      cases earlier : (List.range n).findSome? f with
      | none =>
          have last : i = n := by
            by_contra differs
            obtain ⟨_, _, -, found, -⟩ := ih (by omega)
            rw [found] at earlier
            cases earlier
          subst last
          obtain ⟨a, found⟩ := Option.ne_none_iff_exists'.1 success
          exact ⟨i, a, le_rfl, by simp [found], found⟩
      | some a =>
          by_cases before : i < n
          · obtain ⟨j, b, least, found, eq⟩ := ih before
            rw [earlier] at found
            exact ⟨j, b, least, found, eq⟩
          · obtain ⟨j, listed, eq⟩ := List.exists_of_findSome?_eq_some earlier
            have := List.mem_range.1 listed
            exact ⟨j, a, by omega, rfl, eq⟩

end Binary

/-! Decimals of fifteen digits. -/

namespace Decimal

/-- On a grid and its coarser ones no two values are closer than a step. -/
theorem value_eq_of_close {d d' : Decimal} (coarser : d.exponent ≤ d'.exponent)
    (close : |d'.value - d.value| < 10 ^ d.exponent) : d'.value = d.value := by
  obtain ⟨k, exponent⟩ := Int.le.dest coarser
  have unit : (0 : ℚ) < 10 ^ d.exponent := by positivity
  have shift : d'.value = (d'.digits * 10 ^ k : ℕ) * 10 ^ d.exponent := by
    have moved := value_shift d'.digits k d.exponent
    rw [exponent] at moved
    exact moved.symm
  have steps : d.value = d.digits * 10 ^ d.exponent := rfl
  rw [shift, steps, ← sub_mul, abs_mul, abs_of_pos unit, mul_lt_iff_lt_one_left unit] at close
  have same : ((d'.digits * 10 ^ k : ℕ) : ℤ) = d.digits := by
    have integral : |((d'.digits * 10 ^ k : ℕ) : ℤ) - d.digits| < 1 := by exact_mod_cast close
    have := Int.abs_lt_one_iff.1 integral
    omega
  rw [shift, steps, Nat.cast_inj.1 same]

/-- A decimal of at most fifteen digits, with zeros behind them to make them fifteen. -/
theorem exists_fifteen {d : Decimal} (nonzero : d.digits ≠ 0) (few : d.digits < 10 ^ 15) :
    ∃ d' : Decimal, d'.value = d.value ∧ 10 ^ 14 ≤ d'.digits ∧ d'.digits < 10 ^ 15 := by
  obtain ⟨c, log⟩ : ∃ c, Nat.log 10 d.digits = c := ⟨_, rfl⟩
  have least : 10 ^ c ≤ d.digits := log ▸ Nat.pow_log_le_self 10 nonzero
  have most : d.digits < 10 ^ (c + 1) := log ▸ Nat.lt_pow_succ_log_self (by decide) d.digits
  have short : c < 15 := log ▸ Nat.log_lt_of_lt_pow nonzero few
  have zeros : c + (14 - c) = 14 := by omega
  refine ⟨⟨d.digits * 10 ^ (14 - c), d.exponent - (14 - c : ℕ)⟩, ?_, ?_, ?_⟩
  · rw [value_shift, sub_add_cancel]
  · calc 10 ^ 14 = 10 ^ c * 10 ^ (14 - c) := by rw [← pow_add, zeros]
      _ ≤ d.digits * 10 ^ (14 - c) := Nat.mul_le_mul_right _ least
  · calc d.digits * 10 ^ (14 - c) < 10 ^ (c + 1) * 10 ^ (14 - c) :=
          Nat.mul_lt_mul_of_pos_right most (by positivity)
      _ = 10 ^ 15 := by rw [← pow_add, add_right_comm, zeros]

end Decimal

namespace Binary

variable {x : Binary} {d : Decimal}

/-- The last digit of a magnitude to which fifteen digits round is worth less than theirs. -/
theorem unit_lt_of_fifteen (normal : x.Normal) (most : d.digits < 10 ^ 15)
    (rounded : x.RoundedFrom d.value) : (2 : ℚ) ^ x.q < 10 ^ d.exponent := by
  have grid : (0 : ℚ) < 10 ^ d.exponent := by positivity
  have unit : (0 : ℚ) < 2 ^ x.q := by positivity
  have value : d.value < 10 ^ 15 * 10 ^ d.exponent :=
    mul_lt_mul_of_pos_right (by exact_mod_cast most) grid
  have digits : (2 ^ 52 - 1 / 2) * (2 : ℚ) ^ x.q ≤ (x.m - 1 / 2) * 2 ^ x.q :=
    mul_le_mul_of_nonneg_right (by linarith [normal.least]) unit.le
  linarith [rounded.bounds.1]

/-- Two decimals that round to one magnitude are less than a step of the fifteen digits of one of
them apart, and so is the magnitude. -/
theorem near_of_fifteen (normal : x.Normal) (most : d.digits < 10 ^ 15)
    (rounded : x.RoundedFrom d.value) {v : ℚ} (other : x.RoundedFrom v ∨ v = x.value) :
    |v - d.value| < 10 ^ d.exponent := by
  have unit := unit_lt_of_fifteen normal most rounded
  obtain ⟨low, high⟩ := rounded.bounds
  rcases other with other | rfl
  · obtain ⟨low', high'⟩ := other.bounds
    rw [abs_lt]
    constructor <;> linarith
  · have half : (0 : ℚ) < 2 ^ x.q := by positivity
    rw [abs_lt, value]
    constructor <;> linarith

/-- The scale of a magnitude, told by fifteen digits that round to it. -/
theorem scale_of_fifteen (normal : x.Normal) (least : 10 ^ 14 ≤ d.digits)
    (most : d.digits < 10 ^ 15) (rounded : x.RoundedFrom d.value) :
    d.exponent + 11 ≤ x.scale ∧ x.scale ≤ d.exponent + 16 := by
  have grid : (0 : ℚ) < 10 ^ d.exponent := by positivity
  obtain ⟨below, above⟩ := abs_lt.1 (near_of_fifteen normal most rounded (.inr rfl))
  have low : 10 ^ 14 * 10 ^ d.exponent ≤ d.value :=
    mul_le_mul_of_nonneg_right (by exact_mod_cast least) grid.le
  have high : d.value < 10 ^ 15 * 10 ^ d.exponent :=
    mul_lt_mul_of_pos_right (by exact_mod_cast most) grid
  have power (k : ℕ) : (10 : ℚ) ^ (d.exponent + k) = 10 ^ k * 10 ^ d.exponent := by
    rw [zpow_add₀ (by norm_num), zpow_natCast, mul_comm]
  have lower : (10 : ℚ) ^ (d.exponent + 15 - 2) ≤ x.value := by
    rw [show d.exponent + 15 - 2 = d.exponent + (13 : ℕ) by push_cast; ring, power]
    linarith
  have upper : x.value < (10 : ℚ) ^ (d.exponent + 15 + 1) := by
    rw [show d.exponent + 15 + 1 = d.exponent + (16 : ℕ) by push_cast; ring, power]
    linarith
  obtain ⟨least, most⟩ := scale_bounds normal lower upper
  constructor <;> omega

/-- Fifteen digits that round to a magnitude have the value of its shortest decimal. -/
theorem shortest_value_of_fifteen (normal : x.Normal) (least : 10 ^ 14 ≤ d.digits)
    (most : d.digits < 10 ^ 15) (rounded : x.RoundedFrom d.value) (tie : Tie) :
    (x.shortest tie).value = d.value := by
  obtain ⟨low, high⟩ := scale_of_fifteen normal least most rounded
  obtain ⟨i, index⟩ : ∃ i : ℕ, x.scale - (i + 1) = d.exponent :=
    ⟨(x.scale - d.exponent - 1).toNat, by omega⟩
  have success : x.onGrid? tie (x.scale - (i + 1)) ≠ none := by
    have near := near_of_fifteen normal most rounded (.inr rfl)
    rw [abs_sub_comm] at near
    rw [index]
    exact onGrid?_ne_none (readsBack_iff.2 rounded) near
  -- The search may stop on a coarser grid, but not at another value.
  obtain ⟨j, found, earlier, search, point⟩ :=
    @exists_of_findSome?_range _ (fun n => x.onGrid? tie (x.scale - (n + 1))) 17 i
      (by omega) success
  obtain ⟨exponent, back⟩ := onGrid?_sound point
  have close := near_of_fifteen normal most rounded (.inl (readsBack_iff.1 back))
  have same := Decimal.value_eq_of_close (by omega) close
  have nonzero : x.m ≠ 0 := by
    intro zero
    have := normal.least
    rw [zero] at this
    norm_num at this
  rw [shortest, if_neg nonzero]
  dsimp only
  rw [search, Option.getD_some, Decimal.value_stripZeros, same]

/-- A decimal of at most fifteen digits that rounds to a magnitude has the value of the shortest
decimal of this magnitude. -/
theorem shortest_value (normal : x.Normal) (nonzero : d.digits ≠ 0) (few : d.digits < 10 ^ 15)
    (rounded : x.RoundedFrom d.value) (tie : Tie) : (x.shortest tie).value = d.value := by
  obtain ⟨d', same, least, most⟩ := Decimal.exists_fifteen nonzero few
  rw [← same] at rounded ⊢
  exact shortest_value_of_fifteen normal least most rounded tie

/-! Zero. -/

theorem shortest_zero (zero : x.m = 0) (tie : Tie) : x.shortest tie = ⟨0, 0⟩ := if_pos zero

/-- Only zero has the shortest decimal zero. -/
theorem shortest_ne_zero (nonzero : x.m ≠ 0) (tie : Tie) : (x.shortest tie).digits ≠ 0 := by
  rw [ne_eq, ← Decimal.value_eq_zero_iff, shortest, if_neg nonzero]
  dsimp only
  rw [Decimal.value_stripZeros]
  cases search : (List.range 17).findSome? fun (n : ℕ) => x.onGrid? tie (x.scale - (n + 1)) with
  | none =>
      rw [Option.getD_none, Decimal.value_eq_zero_iff, exactDecimal]
      split
      · exact Nat.mul_ne_zero nonzero (Nat.pow_pos (by decide)).ne'
      · exact Nat.mul_ne_zero nonzero (Nat.pow_pos (by decide)).ne'
  | some found =>
      obtain ⟨_, -, point⟩ := List.exists_of_findSome?_eq_some search
      obtain ⟨low, -⟩ := (readsBack_iff.1 (onGrid?_sound point).2).bounds
      have unit : (0 : ℚ) < 2 ^ x.q := by positivity
      have one : (1 : ℚ) ≤ x.m := by exact_mod_cast Nat.pos_of_ne_zero nonzero
      have positive : 0 < (x.m - 1 / 2) * (2 : ℚ) ^ x.q := mul_pos (by linarith) unit
      exact (positive.trans_le low).ne'

end Binary

end StarPlan
