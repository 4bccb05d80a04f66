import StarPlan.Number.Layout

/-!
# Binary64 values of documents

Document formats other than JSON also write infinities and the value that is no number.
-/

namespace StarPlan

/-- A binary64 value. -/
inductive FloatValue where
  | finite (negative : Bool) (magnitude : Binary)
  | infinite (negative : Bool)
  | nan
deriving DecidableEq, Repr

namespace FloatValue

/-- The text of a value inside a message: positional, with a point. -/
def describe : FloatValue → String
  | finite negative magnitude => Layout.positional.write negative magnitude
  | infinite false => "inf"
  | infinite true => "-inf"
  | nan => "NaN"

/-- The value nearest to a decimal with a sign. -/
def ofDecimal (negative : Bool) (d : Decimal) : FloatValue :=
  match Binary.ofDecimal? d with
  | some magnitude => finite negative magnitude
  | none => infinite negative

end FloatValue

/-- The value of a decimal digit. -/
def decimalDigit (c : Char) : Nat := c.toNat - '0'.toNat

/-- The value of a run of decimal digits. -/
def decimalDigits (cs : List Char) : Nat :=
  cs.foldl (fun n c => n * 10 + decimalDigit c) 0

/-- The decimal with the given digits before and after the point and the given exponent. -/
def Decimal.ofParts (whole fraction : List Char) (exponent : Int) : Decimal :=
  ⟨decimalDigits (whole ++ fraction), exponent - fraction.length⟩

/-- The value of a digit in bases up to sixteen. -/
def baseDigit? (base : Nat) (c : Char) : Option Nat :=
  let value? :=
    if '0' ≤ c ∧ c ≤ '9' then some (c.toNat - '0'.toNat)
    else if 'a' ≤ c ∧ c ≤ 'f' then some (c.toNat - 'a'.toNat + 10)
    else if 'A' ≤ c ∧ c ≤ 'F' then some (c.toNat - 'A'.toNat + 10)
    else none
  value?.filter (· < base)

/-- The value of digits in a base, if they all are. -/
def baseDigits? (base : Nat) (cs : List Char) : Option Nat :=
  cs.foldlM (fun n c => (baseDigit? base c).map (n * base + ·)) 0

/-- The character at a code point, if there is one. -/
def charAt? (point : Nat) : Option Char :=
  if point.isValidChar then some (Char.ofNat point) else none

end StarPlan
