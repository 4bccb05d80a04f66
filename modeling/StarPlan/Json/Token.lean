import StarPlan.Number.Float

/-!
# JSON tokens

A JSON text as a list of tokens without the blanks between them. Where the text goes wrong, the
list ends with a token that says how: the rest of the text is never looked at.

A string token keeps its escapes of UTF-16 units unpaired, and a number token its digits, since
whether they are good depends on what the reader wants with them: a skipped string may hold a
lone surrogate and a skipped number may be out of range.
-/

namespace StarPlan.Json

/-- How a text stops being JSON: by something that cannot stand there, or by ending. -/
inductive Break where
  | malformed
  | truncated
deriving DecidableEq, Repr

/-- A piece of a string: a character, or a UTF-16 unit written as an escape. -/
inductive Piece where
  | char (c : Char)
  | unit (value : Nat)
deriving DecidableEq, Repr

/-- The inside of a string as it is written, and how it breaks off if it has no end. -/
structure RawText where
  pieces : List Piece
  broken : Option Break
deriving DecidableEq, Repr

/-- A number as it is written. -/
structure Numeral where
  negative : Bool
  whole : List Char
  /-- The digits after the point, if there is a point. -/
  fraction : Option (List Char)
  /-- Whether the exponent has a minus sign, and its digits. -/
  exponent : Option (Bool × List Char)
deriving DecidableEq, Repr

/-- A token. The last three end the list: an unfinished string, a number that the end of the
text cuts off, and something that begins no token. -/
inductive Token where
  | openArray
  | closeArray
  | openObject
  | closeObject
  | comma
  | colon
  | null
  | bool (value : Bool)
  | number (numeral : Numeral)
  | text (raw : RawText)
  | cutNumber
  | broken (how : Break)
deriving DecidableEq, Repr

/-- The blanks of JSON. -/
def isSpace (c : Char) : Bool :=
  c == ' ' || c == '\t' || c == '\n' || c == '\r'

/-- The value of four hexadecimal digits. -/
def hexUnit? (a b c d : Char) : Option Nat :=
  baseDigits? 16 [a, b, c, d]

/-- The character that a one-letter escape stands for. -/
def escape? : Char → Option Char
  | '"' => some '"'
  | '\\' => some '\\'
  | '/' => some '/'
  | 'b' => some '\x08'
  | 'f' => some '\x0c'
  | 'n' => some '\n'
  | 'r' => some '\r'
  | 't' => some '\t'
  | _ => none

/-- How a string breaks off in an escape of which fewer than four characters are left: by its
end, unless the bytes of those characters would have been enough. -/
def shortEscape (cs : List Char) : Break :=
  if cs.foldl (fun n c => n + c.utf8Size) 0 < 4 then .truncated else .malformed

/-- The inside of a string and what follows its closing quote. -/
def RawText.scan : List Char → RawText × List Char
  | [] => (⟨[], some .truncated⟩, [])
  | '"' :: rest => (⟨[], none⟩, rest)
  | '\\' :: 'u' :: a :: b :: c :: d :: rest =>
    match hexUnit? a b c d with
    | some value =>
      let (raw, after) := scan rest
      (⟨.unit value :: raw.pieces, raw.broken⟩, after)
    | none => (⟨[], some .malformed⟩, [])
  | '\\' :: 'u' :: rest => (⟨[], some (shortEscape rest)⟩, [])
  | '\\' :: e :: rest =>
    match escape? e with
    | some c =>
      let (raw, after) := scan rest
      (⟨.char c :: raw.pieces, raw.broken⟩, after)
    | none => (⟨[], some .malformed⟩, [])
  | '\\' :: [] => (⟨[], some .truncated⟩, [])
  | c :: rest =>
    if c < ' ' then (⟨[], some .malformed⟩, [])
    else
      let (raw, after) := scan rest
      (⟨.char c :: raw.pieces, raw.broken⟩, after)

/-- A run of digits and what follows it. -/
def digitRun (cs : List Char) : List Char × List Char :=
  (cs.takeWhile Char.isDigit, cs.dropWhile Char.isDigit)

/-- The token for a number that misses a digit before `rest`. -/
def missingDigit (rest : List Char) : Token :=
  if rest.isEmpty then .cutNumber else .broken .malformed

/-- The exponent of a number, after the letter. -/
def scanExponent (sofar : Numeral) (cs : List Char) : Token × List Char :=
  let (negative, cs) := match cs with
    | '+' :: cs => (false, cs)
    | '-' :: cs => (true, cs)
    | cs => (false, cs)
  let (digits, rest) := digitRun cs
  if digits.isEmpty then (missingDigit rest, [])
  else (.number { sofar with exponent := some (negative, digits) }, rest)

/-- The exponent of a number, if it has one. -/
def scanExponent? (sofar : Numeral) : List Char → Token × List Char
  | 'e' :: cs => scanExponent sofar cs
  | 'E' :: cs => scanExponent sofar cs
  | cs => (.number sofar, cs)

/-- A number after its sign. -/
def scanNumber (negative : Bool) (cs : List Char) : Token × List Char :=
  let (whole, rest) := digitRun cs
  if whole.isEmpty then (missingDigit rest, [])
  else if whole.head? = some '0' ∧ whole.length ≠ 1 then (.broken .malformed, [])
  else
    match rest with
    | '.' :: rest =>
      let (fraction, rest) := digitRun rest
      if fraction.isEmpty then (missingDigit rest, [])
      else scanExponent? ⟨negative, whole, some fraction, none⟩ rest
    | rest => scanExponent? ⟨negative, whole, none, none⟩ rest

/-- A word that has to follow in full, or how the text breaks off in it. -/
def scanWord (token : Token) : List Char → List Char → Token × List Char
  | [], cs => (token, cs)
  | _ :: _, [] => (.broken .truncated, [])
  | w :: ws, c :: cs => if w = c then scanWord token ws cs else (.broken .malformed, [])

/-- The token that begins with a character, and what follows it. -/
def scanToken (c : Char) (cs : List Char) : Token × List Char :=
  if c = '[' then (.openArray, cs)
  else if c = ']' then (.closeArray, cs)
  else if c = '{' then (.openObject, cs)
  else if c = '}' then (.closeObject, cs)
  else if c = ',' then (.comma, cs)
  else if c = ':' then (.colon, cs)
  else if c = '"' then ((.text (RawText.scan cs).1), (RawText.scan cs).2)
  else if c = '-' then scanNumber true cs
  else if c.isDigit then scanNumber false (c :: cs)
  else if c = 'n' then scanWord .null ['u', 'l', 'l'] cs
  else if c = 't' then scanWord (.bool true) ['r', 'u', 'e'] cs
  else if c = 'f' then scanWord (.bool false) ['a', 'l', 's', 'e'] cs
  else (.broken .malformed, [])

/-- The tokens of a text, at most as many as the fuel. Every token takes a character, so the
length of the text is fuel enough. -/
def tokens (cs : List Char) (fuel : Nat) : List Token :=
  match fuel, cs with
  | 0, _ => []
  | _, [] => []
  | fuel + 1, c :: cs =>
    if isSpace c then tokens cs fuel
    else
      let (token, rest) := scanToken c cs
      token :: tokens rest fuel

/-- The tokens of a text. -/
def Token.ofText (text : String) : List Token :=
  tokens text.toList text.toList.length

end StarPlan.Json
