import StarPlan.Json.Token
import StarPlan.Number.Float

/-!
# JSON numbers

How a number in a JSON text is read and written. An integer of at most 64 bits stays one.
Anything else becomes a binary64 value: the leading digits that fit into 64 bits are taken as a
whole number, rounded, and then multiplied or divided by a rounded power of ten, so that long
or extreme numbers may come out next to the nearest value. A number beyond the greatest value
is malformed; one too small is zero.

Written out, a binary64 value has the fewest digits that read back, set positionally from
`0.00001` up to but not including `1e+16`.
-/

namespace StarPlan.Json

/-- The decisions for numbers in JSON. -/
def layout : Layout := ⟨some (-5), some 15, .toEven⟩

/-- A number as it is kept: an integer of 64 bits, or a binary64 value with its sign. -/
inductive Number where
  | integer (value : Int)
  | float (negative : Bool) (magnitude : Binary)
deriving DecidableEq, Repr

/-- The text of a number. -/
def Number.render : Number → String
  | integer value => toString value
  | float negative magnitude => layout.write negative magnitude

/-- Appends digits to a number while it stays below `2 ^ 64`: the number and the digits that
were left over. -/
def takeSignificand (start : Nat) : List Char → Nat × List Char
  | [] => (start, [])
  | c :: cs =>
    let next := start * 10 + decimalDigit c
    if next < Nat.pow 2 64 then takeSignificand next cs
    else (start, c :: cs)

/-- The power of ten `10 ^ k`, rounded. -/
def powerOfTen? (k : Nat) : Option Binary :=
  if k ≤ 308 then Binary.ofRatio? (Nat.pow 10 k) 1 else none

/-- Divides by `10 ^ k`; beyond `1e308` in two steps, and what is left of a 64-bit number after
twice that is zero. -/
def divideByPower (x : Binary) (k : Nat) : Option Binary := do
  if k ≤ 308 then x.div? (← powerOfTen? k)
  else
    let y ← x.div? (← powerOfTen? 308)
    if k ≤ 616 then y.div? (← powerOfTen? (k - 308)) else some .zero

/-- A whole number times a power of ten, unless that is beyond the greatest value. -/
def scaleByPower (significand : Nat) (exponent : Int) : Option Binary := do
  let x ← Binary.ofRatio? significand 1
  if exponent < 0 then divideByPower x exponent.natAbs
  else if exponent ≤ 308 then x.mul? (← powerOfTen? exponent.toNat)
  else if significand = 0 then some x
  else none

/-- The greatest exponent that is told apart from greater ones. -/
def exponentLimit : Nat := Nat.pow 2 31 - 1

namespace Numeral

/-- The whole number that the leading digits make, and the power of ten it stands at before the
written exponent. -/
def significand (n : Numeral) : Nat × Int :=
  let (whole, left) := takeSignificand 0 n.whole
  match n.fraction with
  | none => (whole, left.length)
  | some digits =>
    let (all, rest) := takeSignificand whole digits
    (all, (left.length : Int) - (digits.length - rest.length))

/-- The binary64 magnitude of a number, if it is in range. -/
def magnitude? (n : Numeral) : Option Binary :=
  let (significand, start) := n.significand
  match n.exponent with
  | none => scaleByPower significand start
  | some (negative, digits) =>
    let e := decimalDigits digits
    if exponentLimit < e then
      if significand ≠ 0 ∧ ¬negative then none else some .zero
    else scaleByPower significand (if negative then start - e else start + e)

/-- Whether a number has neither a point nor an exponent and its digits fit into 64 bits. -/
def wholeValue? (n : Numeral) : Option Nat :=
  match n.fraction, n.exponent, takeSignificand 0 n.whole with
  | none, none, (value, []) => some value
  | _, _, _ => none

/-- Reads a number; one out of range is malformed. Minus zero is no integer. -/
def read (n : Numeral) : Except Break Number :=
  match n.wholeValue?, n.negative with
  | some value, false => .ok (.integer value)
  | some value, true =>
    if 0 < value ∧ value ≤ Nat.pow 2 63 then .ok (.integer (-value)) else asFloat
  | none, _ => asFloat
where
  /-- Reads a number as a binary64 value. -/
  asFloat : Except Break Number :=
    match n.magnitude? with
    | some magnitude => .ok (.float n.negative magnitude)
    | none => .error .malformed

end Numeral

end StarPlan.Json
