import StarPlan.Toml.Lexeme
import StarPlan.Toml.Value

/-!
# Numbers, dates and times of TOML

Numbers may have underscores between their digits. An integer must fit into 64 bits; a positive
float beyond the greatest value is refused. Dates and times are checked against the calendar
and kept in their canonical text.
-/

namespace StarPlan.Toml

/-- Digits after the first, each underscore between two of them. -/
def scanMoreDigits (isDigit : Char → Bool) : List Char → Option (List Char × List Char)
  | [] => some ([], [])
  | '_' :: [] => none
  | '_' :: c :: rest => do
    guard (isDigit c)
    let (ds, rest) ← scanMoreDigits isDigit rest
    return (c :: ds, rest)
  | c :: rest =>
    if isDigit c then (scanMoreDigits isDigit rest).map fun (ds, rest) => (c :: ds, rest)
    else some ([], c :: rest)

/-- One or more digits. -/
def scanDigits (isDigit : Char → Bool) : List Char → Option (List Char × List Char)
  | c :: rest => do
    guard (isDigit c)
    let (ds, rest) ← scanMoreDigits isDigit rest
    return (c :: ds, rest)
  | [] => none

/-- The whole part of a decimal number: it begins with a zero only if that is all of it. -/
def scanWhole : List Char → Option (List Char × List Char)
  | '0' :: rest => some (['0'], rest)
  | cs => scanDigits Char.isDigit cs

/-- Takes a sign, if there is one. -/
def takeSign : List Char → Option Bool × List Char
  | '+' :: cs => (some false, cs)
  | '-' :: cs => (some true, cs)
  | cs => (none, cs)

/-- An integer that must fit into 64 bits. -/
def boundedInteger? (negative : Bool) (magnitude : Nat) : Option Value :=
  if negative then
    if magnitude ≤ Nat.pow 2 63 then some (.integer (-magnitude)) else none
  else if magnitude < Nat.pow 2 63 then some (.integer magnitude) else none

/-- An integer in another base, after its two-letter mark. -/
def scanBased (base : Nat) (cs : List Char) : Option (Value × List Char) := do
  let (ds, rest) ← scanDigits (fun c => (baseDigit? base c).isSome) cs
  return (← boundedInteger? false (← baseDigits? base ds), rest)

/-- The fraction of a number, if a point follows. -/
def scanFraction : List Char → Option (Option (List Char) × List Char)
  | '.' :: cs => (scanDigits Char.isDigit cs).map fun (ds, rest) => (some ds, rest)
  | cs => some (none, cs)

/-- The exponent of a number, if its letter follows. -/
def scanExponent (cs : List Char) : Option (Option Int × List Char) :=
  let exponent (cs : List Char) : Option (Option Int × List Char) := do
    let (sign, cs) := takeSign cs
    let (ds, rest) ← scanDigits Char.isDigit cs
    let n : Int := decimalDigits ds
    return (some (if sign = some true then -n else n), rest)
  match cs with
  | 'e' :: cs => exponent cs
  | 'E' :: cs => exponent cs
  | cs => some (none, cs)

/-- A float, unless it is positive and beyond the greatest value. -/
def boundedFloat? (negative : Bool) (d : Decimal) : Option Value :=
  match FloatValue.ofDecimal negative d with
  | .infinite false => none
  | x => some (.float x)

/-- A decimal number, after its sign. -/
def scanDecimal (negative : Bool) (cs : List Char) : Option (Value × List Char) := do
  let (whole, rest) ← scanWhole cs
  let (fraction, rest) ← scanFraction rest
  let (exponent, rest) ← scanExponent rest
  match fraction, exponent with
  | none, none => return (← boundedInteger? negative (decimalDigits whole), rest)
  | fraction, exponent =>
    let d := Decimal.ofParts whole (fraction.getD []) (exponent.getD 0)
    return (← boundedFloat? negative d, rest)

/-- A number, which may have a sign. -/
def scanNumber (cs : List Char) : Option (Value × List Char) :=
  match cs with
  | '0' :: 'x' :: cs => scanBased 16 cs
  | '0' :: 'o' :: cs => scanBased 8 cs
  | '0' :: 'b' :: cs => scanBased 2 cs
  | cs =>
    let (sign, cs) := takeSign cs
    let negative := sign == some true
    match cs with
    | 'i' :: 'n' :: 'f' :: rest => some (.float (.infinite negative), rest)
    | 'n' :: 'a' :: 'n' :: rest => some (.float .nan, rest)
    | cs => scanDecimal negative cs

/-- A number of exactly two digits. -/
def scanTwo : List Char → Option (Nat × List Char)
  | a :: b :: rest => do
    guard (a.isDigit && b.isDigit)
    return (decimalDigits [a, b], rest)
  | _ => none

/-- Drops a character that must follow. -/
def expect (c : Char) : List Char → Option (List Char)
  | d :: rest => if d = c then some rest else none
  | [] => none

/-- How many days a month has. -/
def daysIn (year month : Nat) : Nat :=
  if month = 2 then
    if year % 4 = 0 ∧ (year % 100 ≠ 0 ∨ year % 400 = 0) then 29 else 28
  else if month = 4 ∨ month = 6 ∨ month = 9 ∨ month = 11 then 30
  else 31

/-- A number with zeros in front up to a width. -/
def padded (width n : Nat) : List Char :=
  let ds := Nat.toDigits 10 n
  List.replicate (width - ds.length) '0' ++ ds

/-- The month and day of a date, after the year. -/
def scanDay (year : Nat) (cs : List Char) : Option (List Char × List Char) := do
  let (month, rest) ← scanTwo cs
  let (day, rest) ← scanTwo (← expect '-' rest)
  guard (1 ≤ month && month ≤ 12 && 1 ≤ day && day ≤ daysIn year month)
  return (padded 4 year ++ '-' :: padded 2 month ++ '-' :: padded 2 day, rest)

/-- The fraction of a second in its canonical text: at most nine digits, no zeros at the end. -/
def canonicalFraction (ds : List Char) : List Char :=
  let kept := ((ds.take 9).reverse.dropWhile (· == '0')).reverse
  if kept.isEmpty then [] else '.' :: kept

/-- The minute and second of a time, after the hour. -/
def scanMinute (hour : Nat) (cs : List Char) : Option (List Char × List Char) := do
  let (minute, rest) ← scanTwo cs
  let (second, rest) ← scanTwo (← expect ':' rest)
  guard (minute ≤ 59 && second ≤ 60)
  let clock := padded 2 hour ++ ':' :: padded 2 minute ++ ':' :: padded 2 second
  match rest with
  | '.' :: c :: more =>
    if c.isDigit then
      let ds := (c :: more).takeWhile Char.isDigit
      return (clock ++ canonicalFraction ds, (c :: more).dropWhile Char.isDigit)
    else return (clock, rest)
  | rest => return (clock, rest)

/-- The hour at the start of a time, if a time begins here. -/
def hour? (cs : List Char) : Option (Nat × List Char) := do
  let (hour, rest) ← scanTwo cs
  guard (hour ≤ 23)
  return (hour, ← expect ':' rest)

/-- The offset of a time from the prime meridian, if one follows. -/
def scanOffset (cs : List Char) : Option (List Char × List Char) :=
  match cs with
  | 'Z' :: rest => some (['Z'], rest)
  | 'z' :: rest => some (['Z'], rest)
  | cs =>
    match takeSign cs with
    | (none, _) => some ([], cs)
    | (some negative, after) =>
      match hour? after with
      | none => some ([], cs)
      | some (hour, rest) => do
        let (minute, rest) ← scanTwo rest
        guard (minute ≤ 59)
        let sign := if negative && (hour, minute) != (0, 0) then '-' else '+'
        return (sign :: padded 2 hour ++ ':' :: padded 2 minute, rest)

/-- A time and its offset after a date, if they follow. -/
def scanTimeOfDay (cs : List Char) : Option (List Char × List Char) :=
  match cs with
  | c :: after =>
    if c = 'T' ∨ c = 't' ∨ c = ' ' then
      match hour? after with
      | none => some ([], cs)
      | some (hour, rest) => do
        let (clock, rest) ← scanMinute hour rest
        let (offset, rest) ← scanOffset rest
        return ('T' :: clock ++ offset, rest)
    else some ([], cs)
  | [] => some ([], [])

/-- Whether a date begins here: four digits and a hyphen. -/
def beginsDate : List Char → Bool
  | a :: b :: c :: d :: '-' :: _ => a.isDigit && b.isDigit && c.isDigit && d.isDigit
  | _ => false

/-- A number, a date or a time. -/
def scanNumberOrMoment (cs : List Char) : Option (Value × List Char) :=
  if beginsDate cs then do
    let (date, rest) ← scanDay (decimalDigits (cs.take 4)) (cs.drop 5)
    let (time, rest) ← scanTimeOfDay rest
    return (.moment (.ofList (date ++ time)), rest)
  else
    match hour? cs with
    | some (hour, rest) => do
      let (clock, rest) ← scanMinute hour rest
      return (.moment (.ofList clock), rest)
    | none => scanNumber cs

end StarPlan.Toml
