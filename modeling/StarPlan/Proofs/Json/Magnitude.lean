import StarPlan.Proofs.Json.Denotation

/-!
# Which numbers keep their value

A number without point and exponent that fits into 64 bits is kept as an integer
(`Numeral.read_of_integral`). Every other one becomes a binary64 value. If it has at most fifteen
digits and stands at a power of ten up to `10 ^ 22`, both the digits and the power are exact, so it
is rounded but once, and the shortest decimal has its value (`Numeral.value_of_short`).
-/

namespace StarPlan.Json

/-! The significand. -/

theorem decimalDigits_cons (c : Char) (cs : List Char) :
    decimalDigits (c :: cs) = decimalDigit c * 10 ^ cs.length + decimalDigits cs := by
  rw [← List.singleton_append, decimalDigits_append]
  simp [decimalDigits]

/-- Digits that fit are all taken. -/
theorem takeSignificand_eq {start : ℕ} {cs : List Char}
    (fits : start * 10 ^ cs.length + decimalDigits cs < 2 ^ 64) :
    takeSignificand start cs = (start * 10 ^ cs.length + decimalDigits cs, []) := by
  induction cs generalizing start with
  | nil => simp [takeSignificand, decimalDigits]
  | cons c cs ih =>
      have next : start * 10 ^ (c :: cs).length + decimalDigits (c :: cs) =
          (start * 10 + decimalDigit c) * 10 ^ cs.length + decimalDigits cs := by
        rw [decimalDigits_cons, List.length_cons, pow_succ]
        ring
      rw [next] at fits ⊢
      have small : start * 10 + decimalDigit c < Nat.pow 2 64 := by
        refine lt_of_le_of_lt ?_ fits
        exact le_add_right (Nat.le_mul_of_pos_right _ (by positivity))
      rw [takeSignificand, if_pos small, ih fits]

/-- If no digits are left, all fit. -/
theorem lt_of_takeSignificand {start v : ℕ} {cs : List Char} (small : start < 2 ^ 64)
    (all : takeSignificand start cs = (v, [])) :
    v = start * 10 ^ cs.length + decimalDigits cs ∧ v < 2 ^ 64 := by
  induction cs generalizing start with
  | nil =>
      obtain ⟨rfl, -⟩ := Prod.mk.inj all
      exact ⟨by simp [decimalDigits], small⟩
  | cons c cs ih =>
      rw [takeSignificand] at all
      split at all
      · next fits =>
        obtain ⟨rfl, less⟩ := ih fits all
        refine ⟨?_, less⟩
        rw [decimalDigits_cons, List.length_cons, pow_succ]
        ring
      · cases all

namespace Numeral

variable {n : Numeral}

/-! Integers. -/

/-- A number that is kept as an integer: without point and exponent, at most 64 bits long, and not
minus zero. -/
structure Integral (n : Numeral) : Prop where
  noPoint : n.fraction = none
  noExponent : n.exponent = none
  fits : if n.negative then 0 < decimalDigits n.whole ∧ decimalDigits n.whole ≤ 2 ^ 63
    else decimalDigits n.whole < 2 ^ 64

theorem wholeValue?_eq_some_iff {v : ℕ} : n.wholeValue? = some v ↔
    n.fraction = none ∧ n.exponent = none ∧ decimalDigits n.whole = v ∧ v < 2 ^ 64 := by
  obtain ⟨negative, whole, fraction, exponent⟩ := n
  have digits : 0 * 10 ^ whole.length + decimalDigits whole = decimalDigits whole := by ring
  rw [wholeValue?]
  constructor
  · intro result
    split at result
    · next all =>
      obtain rfl := Option.some.inj result
      obtain ⟨eq, less⟩ := lt_of_takeSignificand (by decide) all
      exact ⟨‹_›, ‹_›, (eq.trans digits).symm, less⟩
    · cases result
  · rintro ⟨rfl, rfl, rfl, less⟩
    have all := @takeSignificand_eq 0 whole (digits.symm ▸ less)
    rw [digits] at all
    dsimp only
    rw [all]

theorem value_of_plain (noPoint : n.fraction = none) (noExponent : n.exponent = none) :
    n.value = signed n.negative (decimalDigits n.whole) := by
  have decimal : n.decimal.value = decimalDigits n.whole := by
    simp [Numeral.decimal, Decimal.ofParts, noPoint, power, noExponent, Decimal.value]
  rw [value, decimal]

theorem read_of_integral (integral : n.Integral) :
    ∃ v : ℤ, n.read = .ok (.integer v) ∧ (v : ℚ) = n.value := by
  obtain ⟨noPoint, noExponent, fits⟩ := integral
  have whole {v : ℕ} (eq : decimalDigits n.whole = v) (small : v < 2 ^ 64) :
      n.wholeValue? = some v := wholeValue?_eq_some_iff.2 ⟨noPoint, noExponent, eq, small⟩
  rw [value_of_plain noPoint noExponent]
  cases sign : n.negative with
  | false =>
      rw [if_neg (by rw [sign]; decide)] at fits
      refine ⟨decimalDigits n.whole, ?_, ?_⟩
      · rw [read, whole rfl fits, sign]
      · rfl
  | true =>
      rw [if_pos sign] at fits
      refine ⟨-decimalDigits n.whole, ?_, ?_⟩
      · rw [read, whole rfl (by omega), sign]
        exact if_pos fits
      · rw [signed, if_pos rfl]
        push_cast
        rfl

theorem read_of_not_integral (other : ¬ n.Integral) : n.read = read.asFloat n := by
  rw [read]
  split
  · next v whole sign =>
    obtain ⟨noPoint, noExponent, rfl, less⟩ := wholeValue?_eq_some_iff.1 whole
    exact absurd ⟨noPoint, noExponent, by rwa [if_neg (by rw [sign]; decide)]⟩ other
  · next v whole sign =>
    obtain ⟨noPoint, noExponent, rfl, -⟩ := wholeValue?_eq_some_iff.1 whole
    exact if_neg fun fits => other ⟨noPoint, noExponent, by rwa [if_pos sign]⟩
  · rfl

/-! Short numbers. -/

/-- At most fifteen digits, at a power of ten that is exact. -/
structure Short (n : Numeral) : Prop where
  digits : n.decimal.digits < 10 ^ 15
  lowest : -22 ≤ n.decimal.exponent
  highest : n.decimal.exponent ≤ 22

/-- Digits that fit into 64 bits are the significand. -/
theorem significand_eq (fits : n.decimal.digits < 2 ^ 64) :
    n.significand = (n.decimal.digits, -((n.fraction.getD []).length : ℤ)) := by
  obtain ⟨negative, whole, fraction, exponent⟩ := n
  have all : decimalDigits whole * 10 ^ (fraction.getD []).length +
      decimalDigits (fraction.getD []) < 2 ^ 64 := by
    rw [← decimalDigits_append]
    exact fits
  have short : decimalDigits whole < 2 ^ 64 := by
    refine lt_of_le_of_lt ?_ all
    exact le_add_right (Nat.le_mul_of_pos_right _ (by positivity))
  have taken : takeSignificand 0 whole = (decimalDigits whole, []) := by
    have all := @takeSignificand_eq 0 whole (by rwa [zero_mul, zero_add])
    rwa [zero_mul, zero_add] at all
  rw [significand, taken]
  cases fraction with
  | none =>
      show _ = (decimalDigits (whole ++ []), _)
      rw [List.append_nil]
      rfl
  | some digits =>
      dsimp only [Option.getD_some] at all ⊢
      rw [takeSignificand_eq all, ← decimalDigits_append]
      show (_, _) = (decimalDigits (whole ++ digits), _)
      simp

/-- A short number is its digits, scaled once. -/
theorem magnitude?_eq (short : n.Short) {x : Binary} (result : n.magnitude? = some x) :
    n.decimal.digits = 0 ∧ x = .zero ∨
      scaleByPower n.decimal.digits n.decimal.exponent = some x := by
  have place : n.decimal.exponent = n.power - (n.fraction.getD []).length := rfl
  have lowest := short.lowest
  rw [magnitude?, significand_eq (short.digits.trans (by norm_num))] at result
  dsimp only at result
  split at result
  · next written =>
    have power : n.power = 0 := by rw [power, written]
    rw [power, zero_sub] at place
    rw [place]
    exact .inr result
  · next negative digits written =>
    have power : n.power =
        (if negative then -decimalDigits digits else decimalDigits digits : ℤ) := by
      rw [Numeral.power, written]
    rw [power] at place
    split at result
    · next huge =>
      split at result
      · cases result
      · next small =>
        refine .inl ⟨?_, (Option.some.inj result).symm⟩
        -- Far below the decimal point only zero is short.
        by_contra nonzero
        cases negative with
        | false => exact small ⟨nonzero, Bool.false_ne_true⟩
        | true =>
            rw [if_pos rfl] at place
            have limit : 22 < exponentLimit := by decide
            omega
    · refine .inr ?_
      rw [place]
      cases negative with
      | false =>
          rw [if_neg Bool.false_ne_true] at result ⊢
          rwa [← sub_eq_neg_add] at result
      | true =>
          rw [if_pos rfl] at result ⊢
          rwa [← neg_add', add_comm, neg_add'] at result

end Numeral

/-! One rounding. -/

/-- The powers of ten up to `10 ^ 22` are magnitudes. -/
theorem powersOfTen : (List.range 23).all (fun k =>
    (powerOfTen? k).any fun y => y.num == 10 ^ k * y.den) = true := by
  decide +kernel

theorem exists_powerOfTen {k : ℕ} (small : k ≤ 22) :
    ∃ y, powerOfTen? k = some y ∧ y.value = 10 ^ k := by
  have checked := List.all_eq_true.1 powersOfTen k (List.mem_range.2 (by omega))
  cases power : powerOfTen? k with
  | none =>
      rw [power] at checked
      cases checked
  | some y =>
      rw [power, Option.any_some, beq_iff_eq] at checked
      have positive : (0 : ℚ) < y.den := Nat.cast_pos.2 y.den_pos
      refine ⟨y, rfl, ?_⟩
      rw [Binary.value_eq_div, checked, Nat.cast_mul, mul_div_cancel_right₀ _ positive.ne']
      norm_cast

/-- Scaling by an exact power of ten rounds the exact product. -/
theorem exists_ratio {s : ℕ} {e : ℤ} {x : Binary} (lowest : -22 ≤ e) (highest : e ≤ 22)
    (result : scaleByPower s e = some x) : ∃ a, Binary.ofRatio? s 1 = some a ∧
      ∃ num den : ℕ, 0 < den ∧ (num / den : ℚ) = a.value * 10 ^ e ∧
        Binary.ofRatio? num den = some x := by
  rw [scaleByPower] at result
  obtain ⟨a, whole, result⟩ := Option.bind_eq_some_iff.1 result
  refine ⟨a, whole, ?_⟩
  split at result
  · next below =>
    obtain ⟨k, rfl⟩ : ∃ k : ℕ, e = -k := ⟨e.natAbs, by omega⟩
    rw [Int.natAbs_neg, Int.natAbs_natCast, divideByPower, if_pos (by omega)] at result
    obtain ⟨y, power, value⟩ := exists_powerOfTen (k := k) (by omega)
    have positive : 0 < y.value := value ▸ by positivity
    rw [power] at result
    change a.div? y = some x at result
    rw [Binary.div?_eq positive] at result
    refine ⟨_, _, Nat.mul_pos a.den_pos (Binary.num_pos positive), ?_, result⟩
    rw [Binary.cast_div, value, zpow_neg, zpow_natCast, div_eq_mul_inv]
  · next above =>
    obtain ⟨k, rfl⟩ := Int.eq_ofNat_of_zero_le (not_lt.1 above)
    rw [if_pos (by omega), Int.toNat_natCast] at result
    obtain ⟨y, power, value⟩ := exists_powerOfTen (k := k) (by omega)
    rw [power] at result
    change a.mul? y = some x at result
    refine ⟨_, _, Nat.mul_pos a.den_pos y.den_pos, ?_, result⟩
    rw [Binary.cast_mul, value, zpow_natCast]

/-- The decimals that are scaled exactly are rounded correctly. -/
theorem scaleByPower_roundedFrom {d : Decimal} {x : Binary} (nonzero : d.digits ≠ 0)
    (few : d.digits < 10 ^ 15) (lowest : -22 ≤ d.exponent) (highest : d.exponent ≤ 22)
    (result : scaleByPower d.digits d.exponent = some x) :
    x.Normal ∧ x.RoundedFrom d.value := by
  obtain ⟨a, whole, num, den, positive, ratio, rounded⟩ := exists_ratio lowest highest result
  obtain ⟨a', whole', value⟩ :=
    Binary.ofRatio?_natural (Nat.pos_of_ne_zero nonzero) (few.trans (by norm_num))
  obtain rfl := Option.some.inj (whole.symm.trans whole')
  rw [value] at ratio
  have one : (1 : ℚ) ≤ d.digits := by exact_mod_cast Nat.pos_of_ne_zero nonzero
  have power : (10 : ℚ) ^ (-22 : ℤ) ≤ 10 ^ d.exponent :=
    zpow_le_zpow_right₀ (by norm_num) lowest
  -- No scaled decimal is near the subnormal magnitudes, which have fewer digits.
  have large : (2 : ℚ) ^ (-1022 : ℤ) ≤ num / den := calc
    (2 : ℚ) ^ (-1022 : ℤ) ≤ 2 ^ (-88 : ℤ) := zpow_le_zpow_right₀ one_le_two (by norm_num)
    _ ≤ 10 ^ (-22 : ℤ) := by norm_num
    _ ≤ d.digits * 10 ^ d.exponent := power.trans (le_mul_of_one_le_left (by positivity) one)
    _ = num / den := ratio.symm
  have some : 0 < num := by
    rw [Nat.pos_iff_ne_zero]
    rintro rfl
    rw [Nat.cast_zero, zero_div] at large
    exact absurd large (not_le.2 (by positivity))
  have back := Binary.ofRatio?_roundedFrom some positive rounded
  rw [ratio] at back
  exact ⟨Binary.ofRatio?_normal some positive large rounded, back⟩

theorem scaleByPower_zero {e : ℤ} {x : Binary} (lowest : -22 ≤ e) (highest : e ≤ 22)
    (result : scaleByPower 0 e = some x) : x.m = 0 := by
  obtain ⟨a, whole, num, den, positive, ratio, rounded⟩ := exists_ratio lowest highest result
  obtain rfl := Option.some.inj whole
  rw [Binary.value, Binary.zero, Nat.cast_zero, zero_mul, zero_mul, div_eq_zero_iff] at ratio
  obtain rfl : num = 0 := Nat.cast_eq_zero.1 (ratio.resolve_right (Nat.cast_ne_zero.2 positive.ne'))
  obtain rfl := Option.some.inj rounded
  rfl

/-- A short number that is in range has the value of the shortest decimal of its magnitude. -/
theorem Numeral.Short.shortest_value {n : Numeral} (short : n.Short) {x : Binary}
    (result : n.magnitude? = some x) (tie : Tie) : (x.shortest tie).value = n.decimal.value := by
  have zero (none : n.decimal.digits = 0) (same : x.m = 0) :
      (x.shortest tie).value = n.decimal.value := by
    rw [Binary.shortest_zero same, Decimal.value_eq_zero_iff.2 none]
    simp [Decimal.value]
  rcases magnitude?_eq short result with ⟨none, rfl⟩ | scaled
  · exact zero none rfl
  · by_cases none : n.decimal.digits = 0
    · rw [none] at scaled
      exact zero none (scaleByPower_zero short.lowest short.highest scaled)
    · obtain ⟨normal, rounded⟩ :=
        scaleByPower_roundedFrom none short.digits short.lowest short.highest scaled
      exact Binary.shortest_value normal none short.digits rounded tie

/-! Numbers that keep their value. -/

theorem signed_inj {negative : Bool} {v w : ℚ} : signed negative v = signed negative w ↔ v = w := by
  cases negative with
  | false => exact Iff.rfl
  | true => exact neg_inj

namespace Numeral

variable {n : Numeral}

/-- A number is an integer that is kept as one, or the shortest decimal of its magnitude has its
value. -/
def Kept (n : Numeral) : Prop :=
  n.Integral ∨ ∃ x, n.magnitude? = some x ∧ (x.shortest .toEven).value = n.decimal.value

theorem value_eq_iff_kept {number : Number} (read : n.read = .ok number) :
    number.value = n.value ↔ n.Kept := by
  by_cases integral : n.Integral
  · obtain ⟨v, whole, value⟩ := read_of_integral integral
    obtain rfl := Except.ok.inj (whole.symm.trans read)
    exact iff_of_true value (.inl integral)
  · rw [read_of_not_integral integral, read.asFloat] at read
    split at read
    · next x magnitude =>
      obtain rfl := Except.ok.inj read
      have shortest : (x.shortest .toEven).value = n.decimal.value ↔ n.Kept := by
        constructor
        · exact fun same => .inr ⟨x, magnitude, same⟩
        · rintro (whole | ⟨y, found, same⟩)
          · exact absurd whole integral
          · rwa [Option.some.inj (magnitude.symm.trans found)]
      exact signed_inj.trans shortest
    · cases read

/-- The text of a number that was read denotes the number that was written, if it is kept. -/
theorem denotes_iff_kept {number : Number} (read : n.read = .ok number) :
    Denotes number.render n.value ↔ n.Kept := by
  rw [← value_eq_iff_kept read]
  constructor
  · exact fun denotes => number.denotes_render.unique denotes
  · intro same
    rw [← same]
    exact number.denotes_render

theorem kept_of_short {number : Number} (read : n.read = .ok number) (short : n.Short) :
    n.Kept := by
  by_cases integral : n.Integral
  · exact .inl integral
  · rw [read_of_not_integral integral, read.asFloat] at read
    split at read
    · next x magnitude => exact .inr ⟨x, magnitude, short.shortest_value magnitude .toEven⟩
    · cases read

end Numeral

end StarPlan.Json
