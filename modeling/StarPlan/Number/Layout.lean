import StarPlan.Number.Shortest

/-!
# The layout of decimals

How the digits of a decimal are set: positionally, or with the point after the first digit and
a power of ten. A `Layout` holds every decision of one output format.
-/

namespace StarPlan

/-- The decisions of a number format. `plainFrom` and `plainTo` bound the power of ten of the
leading digit for which a number is set positionally; without bounds every number is. -/
structure Layout where
  plainFrom : Option Int
  plainTo : Option Int
  tie : Tie
deriving DecidableEq, Repr

namespace Decimal

/-- The digits as text. -/
def digitText (d : Decimal) : List Char :=
  Nat.toDigits 10 d.digits

/-- The power of ten of the leading digit. -/
def leading (d : Decimal) : Int :=
  d.exponent + d.digitText.length - 1

/-- The positional form, with at least one digit on either side of the point. -/
def plain (d : Decimal) : List Char :=
  let ds := d.digitText
  if 0 ≤ d.exponent then ds ++ List.replicate d.exponent.toNat '0' ++ ['.', '0']
  else
    let places := (-d.exponent).toNat
    if places < ds.length then
      ds.take (ds.length - places) ++ '.' :: ds.drop (ds.length - places)
    else '0' :: '.' :: (List.replicate (places - ds.length) '0' ++ ds)

/-- The form with a power of ten, whose sign is always written. -/
def scientific (d : Decimal) : List Char :=
  let e := d.leading
  let mantissa := match d.digitText with
    | [] => []
    | [c] => [c]
    | c :: rest => c :: '.' :: rest
  mantissa ++ 'e' :: (if e < 0 then '-' else '+') :: Nat.toDigits 10 e.natAbs

end Decimal

/-- Whether a decimal is set positionally. -/
def Layout.isPlain (l : Layout) (d : Decimal) : Bool :=
  d.digits == 0 ||
    (l.plainFrom.all (· ≤ d.leading) && l.plainTo.all (d.leading ≤ ·))

/-- The text of a magnitude with its sign. -/
def Layout.write (l : Layout) (negative : Bool) (x : Binary) : String :=
  let d := x.shortest l.tie
  let body := if l.isPlain d then d.plain else d.scientific
  String.ofList (if negative then '-' :: body else body)

/-- Every number set positionally, with a point. -/
def Layout.positional : Layout := ⟨none, none, .upward⟩

end StarPlan
