import StarPlan.Content.Fault
import StarPlan.Number.Float
import StarPlan.Yaml.Document

/-!
# What a scalar denotes

A plain scalar without a tag denotes nothing, a boolean, an integer, a float or a text, by its
spelling; any other scalar denotes its text, unless its tag asks for one of the others.

Integers are decimal or have a mark for another base; digits after a leading zero make a text.
Integers of up to 128 bits are told apart; greater ones count as floats if they are decimal.
-/

namespace StarPlan.Yaml

/-- Whether a text is one of the words for nothing. -/
def isNull (s : String) : Bool := ["null", "Null", "NULL", "~"].contains s

/-- The boolean that a text is a word for. -/
def boolean? (s : String) : Option Bool :=
  if ["true", "True", "TRUE"].contains s then some true
  else if ["false", "False", "FALSE"].contains s then some false
  else none

/-- Characters without a sign in front. -/
def dropSign : List Char → List Char
  | '+' :: cs => cs
  | '-' :: cs => cs
  | cs => cs

/-- Whether characters are digits after a leading zero, perhaps with a sign. -/
def hasLeadingZero (cs : List Char) : Bool :=
  match dropSign cs with
  | '0' :: c :: cs => (c :: cs).all Char.isDigit
  | _ => false

/-- The value of one or more digits in a base. -/
def digits? (base : Nat) (cs : List Char) : Option Nat :=
  if cs.isEmpty then none else baseDigits? base cs

/-- A natural number of any size, with the mark of its base if it is not decimal. -/
def natural? : List Char → Option Nat
  | '0' :: 'x' :: cs => digits? 16 cs
  | '0' :: 'o' :: cs => digits? 8 cs
  | '0' :: 'b' :: cs => digits? 2 cs
  | cs => if hasLeadingZero cs then none else digits? 10 cs

/-- An integer of at most 128 bits. -/
def integer? (cs : List Char) : Option Int :=
  match cs with
  | '-' :: cs => ((natural? cs).filter (· ≤ Nat.pow 2 127)).map fun n => -(n : Int)
  | '+' :: cs => ((natural? cs).filter (· < Nat.pow 2 128)).map Int.ofNat
  | cs => ((natural? cs).filter (· < Nat.pow 2 128)).map Int.ofNat

/-- The exponent of a decimal, if its letter follows. All characters must be used up. -/
def exponent? : List Char → Option Int
  | [] => some 0
  | e :: cs =>
    if e != 'e' && e != 'E' then none
    else match cs with
      | '-' :: ds => (digits? 10 ds).map fun n => -(n : Int)
      | '+' :: ds => (digits? 10 ds).map Int.ofNat
      | ds => (digits? 10 ds).map Int.ofNat

/-- A decimal without sign: digits with a point among or beside them, or without, and perhaps
an exponent. -/
def decimal? (cs : List Char) : Option Decimal :=
  let whole := cs.takeWhile Char.isDigit
  let rest := cs.dropWhile Char.isDigit
  let (fraction, rest) := match rest with
    | '.' :: rest => (rest.takeWhile Char.isDigit, rest.dropWhile Char.isDigit)
    | rest => ([], rest)
  if whole.isEmpty && fraction.isEmpty then none
  else (exponent? rest).map (Decimal.ofParts whole fraction)

/-- The float nearest to a decimal, unless it is beyond the greatest. -/
def finite? (negative : Bool) (cs : List Char) : Option FloatValue := do
  return .finite negative (← Binary.ofDecimal? (← decimal? cs))

/-- A float. -/
def float? (s : String) : Option FloatValue :=
  if [".inf", ".Inf", ".INF", "+.inf", "+.Inf", "+.INF"].contains s then some (.infinite false)
  else if ["-.inf", "-.Inf", "-.INF"].contains s then some (.infinite true)
  else if [".nan", ".NaN", ".NAN"].contains s then some .nan
  else match s.toList with
    | '+' :: cs => finite? false cs
    | '-' :: cs => finite? true cs
    | cs => finite? false cs

/-- What a plain scalar without a tag denotes. -/
def plainFound (s : String) : Found :=
  if s.isEmpty || isNull s then .unitValue
  else match boolean? s with
    | some b => .boolean b
    | none =>
      match integer? s.toList with
      | some n => .integer n
      | none =>
        match (float? s).filter fun _ => !hasLeadingZero s.toList with
        | some x => .float x.describe
        | none => .text s

/-- The full form of a tag of the core schema. -/
def coreTag (name : String) : String := "tag:yaml.org,2002:" ++ name

/-- Whether a tag belongs to a document alone, and not to a common schema. -/
def isLocalTag (tag : Option String) : Bool := tag.any (·.startsWith "!")

/-- What a scalar denotes; none if its tag asks for something else than its text. -/
def Scalar.found? (s : Scalar) : Option Found :=
  match s.tag with
  | none => some (if s.isPlain then plainFound s.text else .text s.text)
  | some tag =>
    if tag = coreTag "bool" then (boolean? s.text).map .boolean
    else if tag = coreTag "int" then (integer? s.text.toList).map .integer
    else if tag = coreTag "float" then (float? s.text).map fun x => .float x.describe
    else if tag = coreTag "null" then if isNull s.text then some .unitValue else none
    else some (if s.isPlain && isLocalTag tag then plainFound s.text else .text s.text)

/-- What a node holds, as it is described in a message. -/
def Content.found? : Content → Option Found
  | .scalar s => s.found?
  | .sequence .. => some .sequence
  | .mapping .. => some .map

end StarPlan.Yaml
