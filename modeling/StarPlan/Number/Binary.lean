/-!
# Binary64 magnitudes

A finite magnitude of the binary64 format is `m * 2 ^ q` with `m < 2 ^ 53`. Every operation is
exact arithmetic on ratios of naturals followed by one rounding to the nearest magnitude, ties
to the even one; nothing depends on the machine's floating point unit.

Signs are kept by the callers, so that minus zero needs no special value here.
-/

namespace StarPlan

/-- A decimal magnitude `digits * 10 ^ exponent`. -/
structure Decimal where
  digits : Nat
  exponent : Int
deriving DecidableEq, Repr

/-- A finite binary64 magnitude `m * 2 ^ q`. -/
structure Binary where
  m : Nat
  q : Int
deriving DecidableEq, Repr

/-- A quotient rounded to the nearest integer, a tie to the even one. -/
def roundDiv (num den : Nat) : Nat :=
  let whole := num / den
  let rest := num % den
  if 2 * rest < den ∨ 2 * rest = den ∧ whole % 2 = 0 then whole else whole + 1

namespace Binary

/-- Zero. -/
def zero : Binary := ⟨0, -1074⟩

/-- Numerator and denominator of `num / den / 2 ^ q`. -/
def scaled (num den : Nat) (q : Int) : Nat × Nat :=
  (num * Nat.pow 2 (-q).toNat, den * Nat.pow 2 q.toNat)

/-- The exponent at which a positive ratio is rounded: the integer part of what is rounded has
53 binary digits, or fewer at the least exponent. -/
def roundingExponent (num den : Nat) : Int :=
  let low := max ((num.log2 : Int) - den.log2 - 53) (-1074)
  let (n, d) := scaled num den low
  if Nat.pow 2 53 ≤ n / d then low + 1 else low

/-- The magnitude nearest to `num / den`, unless that is beyond the greatest. -/
def ofRatio? (num den : Nat) : Option Binary :=
  if num = 0 then some zero
  else
    let q := roundingExponent num den
    let (n, d) := scaled num den q
    let m := roundDiv n d
    let nearest : Binary := if m = Nat.pow 2 53 then ⟨Nat.pow 2 52, q + 1⟩ else ⟨m, q⟩
    if nearest.q ≤ 971 then some nearest else none

/-- The numerator of the exact value. -/
def num (x : Binary) : Nat := x.m * Nat.pow 2 x.q.toNat

/-- The denominator of the exact value. -/
def den (x : Binary) : Nat := Nat.pow 2 (-x.q).toNat

/-- The product, rounded. -/
def mul? (x y : Binary) : Option Binary :=
  ofRatio? (x.num * y.num) (x.den * y.den)

/-- The quotient, rounded; dividing by zero counts as beyond the greatest magnitude. -/
def div? (x y : Binary) : Option Binary :=
  if y.m = 0 then none else ofRatio? (x.num * y.den) (x.den * y.num)

/-- How many decimal digits a positive natural has, at most: a bound from its binary length. -/
def digitBound (n : Nat) : Nat :=
  n.log2 * 31 / 100 + 1

/-- The magnitude nearest to a decimal. An exponent far out of range is not expanded. -/
def ofDecimal? (d : Decimal) : Option Binary :=
  if d.digits = 0 then some zero
  else if 400 < d.exponent then none
  else if d.exponent + digitBound d.digits < -400 then some zero
  else ofRatio? (d.digits * Nat.pow 10 d.exponent.toNat) (Nat.pow 10 (-d.exponent).toNat)

example : ofRatio? 1 1 = some ⟨2 ^ 52, -52⟩ := by decide +kernel

example : ofRatio? (2 ^ 53 + 1) 1 = some ⟨2 ^ 52, 1⟩ := by decide +kernel

example : ofRatio? 1 (2 ^ 1074) = some ⟨1, -1074⟩ := by decide +kernel

example : ofRatio? (2 ^ 1024) 1 = none := by decide +kernel

end Binary

end StarPlan
