import StarPlan.Proofs.Number.Value

/-!
# Ratios are rounded to the nearest magnitude

`Binary.ofRatio?` picks an exponent so that the quotient has 53 binary digits before the point,
and rounds it to a whole number, ties to the even one. The ratio is then among the rationals that
round to the outcome (`ofRatio?_roundedFrom`). Whole numbers below `2 ^ 53` are not changed.
-/

namespace StarPlan

/-- A natural is nearest to a rational, and even if another one is as near. -/
structure IsNearest (m : ℕ) (v : ℚ) : Prop where
  above : m - 1 / 2 < v ∨ m % 2 = 0 ∧ v = m - 1 / 2
  below : v < m + 1 / 2 ∨ m % 2 = 0 ∧ v = m + 1 / 2

theorem IsNearest.le {m k : ℕ} {v : ℚ} (nearest : IsNearest m v) (least : k ≤ v) : k ≤ m := by
  have most := nearest.below.elim le_of_lt fun h => h.2.le
  have close : (k : ℚ) < (m + 1 : ℕ) := by
    push_cast
    linarith
  exact Nat.lt_succ_iff.1 (Nat.cast_lt.1 close)

theorem IsNearest.ge {m k : ℕ} {v : ℚ} (nearest : IsNearest m v) (most : v ≤ k) : m ≤ k := by
  have least := nearest.above.elim le_of_lt fun h => h.2.ge
  have close : (m : ℚ) < (k + 1 : ℕ) := by
    push_cast
    linarith
  exact Nat.lt_succ_iff.1 (Nat.cast_lt.1 close)

theorem roundDiv_isNearest (num : ℕ) {den : ℕ} (positive : 0 < den) :
    IsNearest (roundDiv num den) (num / den) := by
  have positive' : (0 : ℚ) < den := Nat.cast_pos.2 positive
  obtain ⟨rest, restEq⟩ : ∃ r : ℚ, ((num % den : ℕ) : ℚ) / den = r := ⟨_, rfl⟩
  have quotient : (num : ℚ) / den = (num / den : ℕ) + rest := by
    have division : (num : ℚ) = den * (num / den : ℕ) + (num % den : ℕ) := by
      exact_mod_cast (Nat.div_add_mod num den).symm
    rw [← restEq, division, add_div, mul_div_cancel_left₀ _ positive'.ne']
  have nonneg : 0 ≤ rest := restEq ▸ by positivity
  have small : rest < 1 := by
    rw [← restEq, div_lt_one positive']
    exact_mod_cast Nat.mod_lt num positive
  have half : rest < 1 / 2 ↔ 2 * (num % den) < den := by
    rw [← restEq, div_lt_div_iff₀ positive' two_pos, one_mul, mul_comm]
    exact_mod_cast Iff.rfl
  have tie : rest = 1 / 2 ↔ 2 * (num % den) = den := by
    rw [← restEq, div_eq_div_iff positive'.ne' two_ne_zero, one_mul, mul_comm]
    exact_mod_cast Iff.rfl
  rw [quotient]
  unfold roundDiv
  dsimp only
  split
  · next down =>
    refine ⟨.inl (by linarith), ?_⟩
    rcases down with less | ⟨equal, even⟩
    · exact .inl (by linarith [half.2 less])
    · exact .inr ⟨even, by linarith [tie.2 equal]⟩
  · next up =>
    have next : ((num / den + 1 : ℕ) : ℚ) = (num / den : ℕ) + 1 := Nat.cast_succ _
    refine ⟨?_, .inl (by linarith)⟩
    by_cases equal : rest = 1 / 2
    · have odd : (num / den + 1) % 2 = 0 := by
        have := tie.1 equal
        omega
      exact .inr ⟨odd, by linarith⟩
    · have more : 1 / 2 < rest :=
        lt_of_le_of_ne (not_lt.1 fun less => up (.inl (half.1 less))) (Ne.symm equal)
      exact .inl (by linarith)

namespace Binary

variable {num den : ℕ}

theorem cast_two_pow (k : ℕ) : ((Nat.pow 2 k : ℕ) : ℚ) = 2 ^ k := Nat.cast_pow 2 k

/-! The exponent. -/

theorem scaled_pos (num : ℕ) (positive : 0 < den) (q : ℤ) : 0 < (scaled num den q).2 :=
  Nat.mul_pos positive (Nat.pow_pos two_pos)

theorem scaled_div (num den : ℕ) (q : ℤ) :
    ((scaled num den q).1 : ℚ) / (scaled num den q).2 = num / den / 2 ^ q := by
  rw [scaled, zpow_eq_div 2]
  push_cast [Nat.pow_eq]
  rw [div_div_eq_mul_div, div_mul_eq_mul_div, div_div]

/-- The integer part of a scaled ratio has more than 53 binary digits, told by the ratio. -/
theorem le_scaled_div_iff (num : ℕ) (positive : 0 < den) (k : ℕ) (q : ℤ) :
    k ≤ (scaled num den q).1 / (scaled num den q).2 ↔ (k * 2 ^ q : ℚ) ≤ num / den := by
  have positive' : (0 : ℚ) < (scaled num den q).2 := Nat.cast_pos.2 (scaled_pos num positive q)
  have unit : (0 : ℚ) < 2 ^ q := by positivity
  rw [Nat.le_div_iff_mul_le (scaled_pos num positive q), ← le_div_iff₀ unit, ← scaled_div,
    le_div_iff₀ positive']
  exact_mod_cast Iff.rfl

/-- The lengths of two naturals bound their ratio. -/
theorem log2_bounds (hnum : 0 < num) (hden : 0 < den) :
    (2 : ℚ) ^ ((num.log2 : ℤ) - den.log2 - 1) ≤ num / den ∧
      (num / den : ℚ) < 2 ^ ((num.log2 : ℤ) - den.log2 + 1) := by
  have numLow : (2 : ℚ) ^ num.log2 ≤ num := by exact_mod_cast Nat.log2_self_le hnum.ne'
  have numHigh : (num : ℚ) < 2 ^ (num.log2 + 1) := by exact_mod_cast Nat.lt_log2_self
  have denLow : (2 : ℚ) ^ den.log2 ≤ den := by exact_mod_cast Nat.log2_self_le hden.ne'
  have denHigh : (den : ℚ) < 2 ^ (den.log2 + 1) := by exact_mod_cast Nat.lt_log2_self
  have positive : (0 : ℚ) < den := Nat.cast_pos.2 hden
  constructor
  · have power : (2 : ℚ) ^ ((num.log2 : ℤ) - den.log2 - 1) = 2 ^ num.log2 / 2 ^ (den.log2 + 1) := by
      rw [sub_sub, zpow_sub₀ two_ne_zero, zpow_natCast]
      norm_cast
    rw [power]
    gcongr
  · have power : (2 : ℚ) ^ ((num.log2 : ℤ) - den.log2 + 1) = 2 ^ (num.log2 + 1) / 2 ^ den.log2 := by
      rw [sub_add_eq_add_sub, zpow_sub₀ two_ne_zero, zpow_natCast]
      norm_cast
    rw [power]
    gcongr

theorem zpow_two_add (q : ℤ) (k : ℕ) : (2 : ℚ) ^ (q + k) = 2 ^ k * 2 ^ q := by
  rw [zpow_add₀ two_ne_zero, zpow_natCast, mul_comm]

/-- At its exponent a ratio has 53 binary digits before the point, or fewer at the least
exponent. -/
theorem roundingExponent_bounds (hnum : 0 < num) (hden : 0 < den) :
    -1074 ≤ roundingExponent num den ∧
      (num / den : ℚ) < 2 ^ 53 * 2 ^ roundingExponent num den ∧
      (roundingExponent num den = -1074 ∨
        (2 ^ 52 * 2 ^ roundingExponent num den : ℚ) ≤ num / den) := by
  obtain ⟨lower, upper⟩ := log2_bounds hnum hden
  obtain ⟨low, lowEq⟩ : ∃ low, max ((num.log2 : ℤ) - den.log2 - 53) (-1074) = low := ⟨_, rfl⟩
  have least : -1074 ≤ low := lowEq ▸ le_max_right ..
  have fits : (num / den : ℚ) < 2 ^ 54 * 2 ^ low := by
    rw [← zpow_two_add]
    refine upper.trans_le (zpow_le_zpow_right₀ one_le_two ?_)
    have := le_max_left ((num.log2 : ℤ) - den.log2 - 53) (-1074)
    push_cast
    omega
  have next : (2 : ℚ) ^ (low + 1) = 2 * 2 ^ low := by
    rw [zpow_add_one₀ two_ne_zero, mul_comm]
  have long := le_scaled_div_iff num hden (2 ^ 53) low
  push_cast at long
  rw [roundingExponent, lowEq]
  dsimp only
  split
  · next more =>
    have more := long.1 more
    refine ⟨by omega, ?_, .inr ?_⟩
    · rw [next]
      linarith
    · rw [next]
      linarith
  · next less =>
    have less := not_le.1 fun h => less (long.2 h)
    refine ⟨least, less, ?_⟩
    by_cases clamped : low = -1074
    · exact .inl clamped
    · refine .inr (le_trans (le_of_eq ?_) lower)
      rw [← zpow_two_add]
      congr 1
      push_cast
      omega

/-! The magnitude. -/

/-- The magnitude that a rounded quotient becomes, carried over if it has grown to 54 digits. -/
def carried (m : ℕ) (q : ℤ) : Binary :=
  if m = Nat.pow 2 53 then ⟨Nat.pow 2 52, q + 1⟩ else ⟨m, q⟩

theorem ofRatio?_eq_some (hnum : 0 < num) {x : Binary} (result : ofRatio? num den = some x) :
    ∃ q, q = roundingExponent num den ∧
      x = carried (roundDiv (scaled num den q).1 (scaled num den q).2) q ∧ x.q ≤ 971 := by
  obtain ⟨q, exponent⟩ : ∃ q, q = roundingExponent num den := ⟨_, rfl⟩
  rw [ofRatio?, if_neg hnum.ne', ← exponent] at result
  change (if (carried _ q).q ≤ 971 then some (carried _ q) else none) = some x at result
  split at result
  · next bounded =>
    obtain rfl := Option.some.inj result
    exact ⟨q, exponent, rfl, bounded⟩
  · cases result

variable {m : ℕ} {q : ℤ} {v : ℚ}

/-- What is nearest to `2 ^ 53` from below rounds to the power of two, whose lower neighbour is
half as far away as the upper one. -/
theorem power_roundedFrom (least : -1074 ≤ q) (above : (2 ^ 53 - 1 / 2) * 2 ^ q ≤ v)
    (fits : v < 2 ^ 53 * 2 ^ q) : (⟨Nat.pow 2 52, q + 1⟩ : Binary).RoundedFrom v := by
  have unit : (0 : ℚ) < 2 ^ q := by positivity
  have half : (2 : ℚ) ^ (q + 1 - 2) = 2 ^ q / 2 := by
    rw [show q + 1 - 2 = q - 1 by ring, zpow_sub_one₀ two_ne_zero, div_eq_mul_inv]
  have narrow : (⟨Nat.pow 2 52, q + 1⟩ : Binary).narrowBelow = true := by
    rw [narrowBelow, beq_self_eq_true, Bool.true_and, decide_eq_true_eq]
    show -1074 < q + 1
    omega
  have low : ((4 * Nat.pow 2 52 - 1 : ℕ) : ℚ) = 2 ^ 54 - 1 := by norm_num
  have high : ((4 * Nat.pow 2 52 + 2 : ℕ) : ℚ) = 2 ^ 54 + 2 := by norm_num
  constructor
  · rw [Binary.low, narrow, half, if_pos rfl, low]
    rcases above.lt_or_eq with above | above
    · exact .inl (by linarith)
    · exact .inr ⟨Nat.mod_eq_zero_of_dvd ⟨Nat.pow 2 51, rfl⟩, by linarith⟩
  · rw [half, high]
    exact .inl (by linarith)

/-- What is nearest to a shorter quotient rounds to it. -/
theorem short_roundedFrom (positive : 0 < v) (full : q = -1074 ∨ 2 ^ 52 * 2 ^ q ≤ v)
    (nearest : IsNearest m (v / 2 ^ q)) : (⟨m, q⟩ : Binary).RoundedFrom v := by
  have unit : (0 : ℚ) < 2 ^ q := by positivity
  obtain ⟨above, below⟩ := nearest
  rw [lt_div_iff₀ unit, div_eq_iff unit.ne'] at above
  rw [div_lt_iff₀ unit, div_eq_iff unit.ne'] at below
  constructor
  · rw [zpow_sub_two, low]
    split
    · next narrow =>
      -- Below a power of two the interval is short, but `v` is not below the power.
      obtain ⟨rfl, regular⟩ : m = Nat.pow 2 52 ∧ -1074 < q := by
        simpa only [narrowBelow, Bool.and_eq_true, beq_iff_eq, decide_eq_true_eq] using narrow
      have least : 2 ^ 52 * 2 ^ q ≤ v := full.resolve_left regular.ne'
      have low : ((4 * Nat.pow 2 52 - 1 : ℕ) : ℚ) = 2 ^ 54 - 1 := by norm_num
      rw [low]
      exact .inl (by linarith)
    · rcases Nat.eq_zero_or_pos m with rfl | some
      · exact .inl (by simpa using positive)
      · have low : ((4 * m - 2 : ℕ) : ℚ) = 4 * m - 2 := by
          rw [Nat.cast_sub (by omega)]
          push_cast
          ring
        rw [low]
        rcases above with above | ⟨even, above⟩
        · exact .inl (by linarith)
        · exact .inr ⟨even, by linarith⟩
  · rw [zpow_sub_two]
    push_cast
    rcases below with below | ⟨even, below⟩
    · exact .inl (by linarith)
    · exact .inr ⟨even, by linarith⟩

/-- A ratio rounds to the magnitude that is found for it. -/
theorem ofRatio?_roundedFrom (hnum : 0 < num) (hden : 0 < den) {x : Binary}
    (result : ofRatio? num den = some x) : x.RoundedFrom (num / den) := by
  obtain ⟨q, exponent, rfl, -⟩ := ofRatio?_eq_some hnum result
  obtain ⟨least, fits, full⟩ := roundingExponent_bounds hnum hden
  rw [← exponent] at least fits full
  have positive : (0 : ℚ) < num / den := div_pos (Nat.cast_pos.2 hnum) (Nat.cast_pos.2 hden)
  have nearest := roundDiv_isNearest (scaled num den q).1 (scaled_pos num hden q)
  rw [scaled_div] at nearest
  rw [carried]
  split
  · next carry =>
    have above : (2 ^ 53 - 1 / 2 : ℚ) ≤ num / den / 2 ^ q := by
      have low := nearest.above.elim le_of_lt fun h => h.2.ge
      rwa [carry, cast_two_pow] at low
    exact power_roundedFrom least ((le_div_iff₀ (by positivity)).1 above) fits
  · exact short_roundedFrom positive full nearest

/-- A magnitude with all of its 53 digits, in the range of the format. -/
structure Normal (x : Binary) : Prop where
  least : 2 ^ 52 ≤ (x.m : ℚ)
  most : (x.m : ℚ) < 2 ^ 53
  lowest : -1074 ≤ x.q
  highest : x.q ≤ 971

/-- A ratio that is not tiny is rounded to 53 digits. -/
theorem ofRatio?_normal (hnum : 0 < num) (hden : 0 < den)
    (large : (2 ^ (-1022 : ℤ) : ℚ) ≤ num / den) {x : Binary} (result : ofRatio? num den = some x) :
    x.Normal := by
  obtain ⟨q, exponent, rfl, bounded⟩ := ofRatio?_eq_some hnum result
  obtain ⟨least, fits, full⟩ := roundingExponent_bounds hnum hden
  rw [← exponent] at least fits full
  have unit : (0 : ℚ) < 2 ^ q := by positivity
  have full : (2 ^ 52 * 2 ^ q : ℚ) ≤ num / den := by
    refine full.elim (fun tiny => ?_) id
    rw [tiny, ← zpow_two_add]
    exact large
  have nearest := roundDiv_isNearest (scaled num den q).1 (scaled_pos num hden q)
  rw [scaled_div] at nearest
  rw [← le_div_iff₀ unit, ← cast_two_pow] at full
  rw [← div_lt_iff₀ unit, ← cast_two_pow] at fits
  have low := nearest.le full
  have high := nearest.ge fits.le
  rw [carried] at bounded ⊢
  split
  · next carry =>
    rw [if_pos carry] at bounded
    refine ⟨(cast_two_pow 52).ge, ?_, by show -1074 ≤ q + 1; omega, bounded⟩
    rw [cast_two_pow]
    norm_num
  · next short =>
    rw [if_neg short] at bounded
    refine ⟨?_, ?_, least, bounded⟩
    · rw [← cast_two_pow]
      exact Nat.cast_le.2 low
    · rw [← cast_two_pow]
      exact Nat.cast_lt.2 (lt_of_le_of_ne high short)

/-! Exact ratios. -/

/-- A ratio that is a whole number at its exponent is not changed. -/
theorem ofRatio?_exact (hnum : 0 < num) (hden : 0 < den) {k : ℕ}
    (whole : (num / den : ℚ) = k * 2 ^ roundingExponent num den)
    (bounded : roundingExponent num den ≤ 971) :
    ofRatio? num den = some ⟨k, roundingExponent num den⟩ := by
  obtain ⟨-, fits, -⟩ := roundingExponent_bounds hnum hden
  obtain ⟨q, exponent⟩ : ∃ q, q = roundingExponent num den := ⟨_, rfl⟩
  rw [← exponent] at whole fits bounded ⊢
  have unit : (0 : ℚ) < 2 ^ q := by positivity
  have nearest := roundDiv_isNearest (scaled num den q).1 (scaled_pos num hden q)
  rw [scaled_div, whole, mul_div_cancel_right₀ _ unit.ne'] at nearest
  have same := le_antisymm (nearest.ge le_rfl) (nearest.le le_rfl)
  have short : k ≠ Nat.pow 2 53 := by
    rintro rfl
    rw [whole, cast_two_pow] at fits
    exact fits.false
  rw [ofRatio?, if_neg hnum.ne', ← exponent]
  dsimp only
  rw [same, if_neg short, if_pos bounded]

/-- A whole number below `2 ^ 53` is a magnitude. -/
theorem ofRatio?_natural {n : ℕ} (positive : 0 < n) (small : n < 2 ^ 53) :
    ∃ x, ofRatio? n 1 = some x ∧ x.value = n := by
  obtain ⟨-, -, full⟩ := roundingExponent_bounds positive one_pos
  obtain ⟨q, exponent⟩ : ∃ q, q = roundingExponent n 1 := ⟨_, rfl⟩
  rw [← exponent, Nat.cast_one, div_one] at full
  have low : q ≤ 0 := by
    rcases full with tiny | full
    · omega
    · have unit : (2 : ℚ) ^ q < 2 ^ (1 : ℤ) := by
        have small : (n : ℚ) < 2 ^ 53 := by exact_mod_cast small
        rw [zpow_one]
        linarith
      have := (zpow_lt_zpow_iff_right₀ one_lt_two).1 unit
      omega
  have whole : (n : ℚ) = (n * 2 ^ (-q).toNat : ℕ) * 2 ^ q := by
    rw [zpow_eq_div 2, Int.toNat_of_nonpos low]
    push_cast
    field_simp
  refine ⟨⟨n * 2 ^ (-q).toNat, q⟩, ?_, whole.symm⟩
  rw [exponent] at whole low ⊢
  refine ofRatio?_exact positive one_pos ?_ (low.trans (by norm_num))
  rwa [Nat.cast_one, div_one]

/-! Products and quotients. -/

variable {x y z : Binary}

theorem num_pos (positive : 0 < x.value) : 0 < x.num := by
  rw [value_eq_div] at positive
  have nonzero : (x.num : ℚ) ≠ 0 := by
    intro zero
    rw [zero, zero_div] at positive
    exact positive.false
  exact Nat.pos_of_ne_zero (Nat.cast_ne_zero.1 nonzero)

theorem div?_eq (positive : 0 < y.value) : x.div? y = ofRatio? (x.num * y.den) (x.den * y.num) := by
  have nonzero : y.m ≠ 0 := by
    intro zero
    rw [value, zero, Nat.cast_zero, zero_mul] at positive
    exact positive.false
  exact if_neg nonzero

theorem cast_mul (x y : Binary) :
    ((x.num * y.num : ℕ) : ℚ) / (x.den * y.den : ℕ) = x.value * y.value := by
  rw [value_eq_div, value_eq_div, Nat.cast_mul, Nat.cast_mul, div_mul_div_comm]

theorem cast_div (x y : Binary) :
    ((x.num * y.den : ℕ) : ℚ) / (x.den * y.num : ℕ) = x.value / y.value := by
  rw [value_eq_div, value_eq_div, Nat.cast_mul, Nat.cast_mul, div_div_div_eq]

end Binary

end StarPlan
