import StarPlan.Number.Binary

/-!
# Shortest decimals

The fewest digits that read back to a binary64 magnitude, and of those the nearest to it. The
reals that round to `m * 2 ^ q` reach halfway to its neighbours, the ends included exactly when
`m` is even; the neighbour below a power of two is only half as far away as the one above.

The search goes through the grids of one digit, two digits and so on. On each it looks at the
two points next to the value; seventeen digits always suffice.
-/

namespace StarPlan

/-- Which of two equally near decimals is taken. -/
inductive Tie where
  | toEven
  | upward
deriving DecidableEq, Repr

namespace Binary

/-- Whether the neighbour below is half as far away as the neighbour above. -/
def narrowBelow (x : Binary) : Bool :=
  x.m == Nat.pow 2 52 && -1074 < x.q

/-- Compares `digits * 10 ^ exponent` with `n * 2 ^ j`, exactly. -/
def compareScaled (d : Decimal) (n : Nat) (j : Int) : Ordering :=
  compare (d.digits * Nat.pow 10 d.exponent.toNat * Nat.pow 2 (-j).toNat)
    (n * Nat.pow 2 j.toNat * Nat.pow 10 (-d.exponent).toNat)

/-- Whether a decimal lies among the reals that round to `x`. -/
def readsBack (x : Binary) (d : Decimal) : Bool :=
  let low := if x.narrowBelow then 4 * x.m - 1 else 4 * x.m - 2
  let high := 4 * x.m + 2
  let closed := x.m % 2 == 0
  let atLow := compareScaled d low (x.q - 2)
  let atHigh := compareScaled d high (x.q - 2)
  (atLow == .gt || closed && atLow == .eq) && (atHigh == .lt || closed && atHigh == .eq)

/-- The least `k` from `k₀` on, within `fuel` steps, with `x < 10 ^ k`. -/
def scaleFrom (x : Binary) (k : Int) : Nat → Int
  | 0 => k
  | fuel + 1 => if compareScaled ⟨1, k⟩ x.m x.q == .gt then k else scaleFrom x (k + 1) fuel

/-- The least `k` with `x < 10 ^ k`, for `x` above zero. -/
def scale (x : Binary) : Int :=
  let bits := (x.m.log2 : Int) + x.q
  x.scaleFrom (bits * 30103 / 100000 - 1) 4

/-- The point of the grid `10 ^ exponent` at or below `x`. -/
def floorOn (x : Binary) (exponent : Int) : Nat :=
  x.num * Nat.pow 10 (-exponent).toNat / (x.den * Nat.pow 10 exponent.toNat)

/-- Whether the upper of two neighbouring grid points is taken when both read back. -/
def takesUpper (tie : Tie) (x : Binary) (lower : Decimal) : Bool :=
  match compareScaled ⟨2 * lower.digits + 1, lower.exponent⟩ (2 * x.m) x.q with
  | .lt => true
  | .gt => false
  | .eq => match tie with
    | .toEven => lower.digits % 2 == 1
    | .upward => true

/-- The point of one grid that reads back, the nearer if there are two. -/
def onGrid? (tie : Tie) (x : Binary) (exponent : Int) : Option Decimal :=
  let lower : Decimal := ⟨x.floorOn exponent, exponent⟩
  let upper : Decimal := ⟨lower.digits + 1, exponent⟩
  match x.readsBack lower, x.readsBack upper with
  | true, true => some (if takesUpper tie x lower then upper else lower)
  | true, false => some lower
  | false, true => some upper
  | false, false => none

/-- The exact value as a decimal. -/
def exactDecimal (x : Binary) : Decimal :=
  if 0 ≤ x.q then ⟨x.num, 0⟩ else ⟨x.m * Nat.pow 5 (-x.q).toNat, x.q⟩

end Binary

/-- A decimal without zeros at the end of its digits. -/
def Decimal.stripZeros (d : Decimal) : Nat → Decimal
  | 0 => d
  | fuel + 1 =>
    if d.digits ≠ 0 ∧ d.digits % 10 = 0 then
      Decimal.stripZeros ⟨d.digits / 10, d.exponent + 1⟩ fuel
    else d

/-- The shortest decimal that reads back to `x`. -/
def Binary.shortest (tie : Tie) (x : Binary) : Decimal :=
  if x.m = 0 then ⟨0, 0⟩
  else
    let k := x.scale
    let found := (List.range 17).findSome? fun (n : Nat) => x.onGrid? tie (k - (n + 1))
    (found.getD x.exactDecimal).stripZeros 800

example : (⟨5404319552844595, -54⟩ : Binary).shortest .toEven = ⟨3, -1⟩ := by decide +kernel

example : (⟨1, -1074⟩ : Binary).shortest .toEven = ⟨5, -324⟩ := by decide +kernel

example : (⟨2 ^ 52, -77⟩ : Binary).shortest .toEven = ⟨29802322387695312, -24⟩ := by
  decide +kernel

end StarPlan
