import StarPlan.Number.Float

/-!
# The words of TOML

Blanks, comments, keys and strings. Each scanner takes the characters that are left and gives
what it read with the characters after it; none means that the text is no TOML.
-/

namespace StarPlan.Toml

/-- The blanks inside a line. -/
def isSpace (c : Char) : Bool := c == ' ' || c == '\t'

/-- Drops blanks. -/
def dropSpaces (cs : List Char) : List Char := cs.dropWhile isSpace

/-- What follows a line end. -/
def lineEnd? : List Char → Option (List Char)
  | '\n' :: cs => some cs
  | '\r' :: '\n' :: cs => some cs
  | _ => none

/-- Whether a character may stand in a comment. -/
def isCommentChar (c : Char) : Bool :=
  c == '\t' || ' ' ≤ c && c ≤ '~' || 0x80 ≤ c.toNat

/-- Drops a comment, if one begins here. -/
def dropComment : List Char → List Char
  | '#' :: cs => cs.dropWhile isCommentChar
  | cs => cs

/-- Drops the rest of a line: blanks, a comment, and the line end or the end of the text. -/
def finishLine (cs : List Char) : Option (List Char) :=
  match dropComment (dropSpaces cs) with
  | [] => some []
  | cs => lineEnd? cs

/-- Drops blanks, line ends and comments. A comment must end in a line end. -/
def dropLines : Nat → List Char → Option (List Char)
  | 0, cs => some cs
  | fuel + 1, cs =>
    match dropSpaces cs with
    | '#' :: cs => (lineEnd? (cs.dropWhile isCommentChar)).bind (dropLines fuel)
    | '\n' :: cs => dropLines fuel cs
    | '\r' :: '\n' :: cs => dropLines fuel cs
    | '\r' :: _ => none
    | cs => some cs

/-- Whether a character may stand in a string without an escape. -/
def isBasicChar (c : Char) : Bool :=
  isCommentChar c && c != '"' && c != '\\'

/-- Whether a character may stand in a string without escapes. -/
def isLiteralChar (c : Char) : Bool :=
  isCommentChar c && c != '\''

/-- The character that a one-letter escape stands for. -/
def escape? : Char → Option Char
  | 'b' => some '\x08'
  | 't' => some '\t'
  | 'n' => some '\n'
  | 'f' => some '\x0c'
  | 'r' => some '\r'
  | '"' => some '"'
  | '\\' => some '\\'
  | _ => none

/-- The character of an escape and what follows it, after the backslash. -/
def scanEscape : List Char → Option (Char × List Char)
  | 'u' :: a :: b :: c :: d :: rest => do
    return (← charAt? (← baseDigits? 16 [a, b, c, d]), rest)
  | 'U' :: a :: b :: c :: d :: e :: f :: g :: h :: rest => do
    return (← charAt? (← baseDigits? 16 [a, b, c, d, e, f, g, h]), rest)
  | e :: rest => (escape? e).map (·, rest)
  | [] => none

/-- The inside of a string on one line, after its opening quote. -/
def scanBasic : Nat → List Char → Option (List Char × List Char)
  | 0, _ => none
  | _, [] => none
  | _, '"' :: rest => some ([], rest)
  | fuel + 1, '\\' :: rest => do
    let (c, rest) ← scanEscape rest
    let (s, rest) ← scanBasic fuel rest
    return (c :: s, rest)
  | fuel + 1, c :: rest => do
    guard (isBasicChar c)
    let (s, rest) ← scanBasic fuel rest
    return (c :: s, rest)

/-- The inside of a string without escapes, after its opening quote. -/
def scanLiteral : List Char → Option (List Char × List Char)
  | [] => none
  | '\'' :: rest => some ([], rest)
  | c :: rest => do
    guard (isLiteralChar c)
    let (s, rest) ← scanLiteral rest
    return (c :: s, rest)

/-- Drops blanks and line ends. -/
def dropBlankLines : List Char → List Char
  | '\r' :: '\n' :: cs => dropBlankLines cs
  | c :: cs => if isSpace c || c == '\n' then dropBlankLines cs else c :: cs
  | [] => []

/-- Drops the line end after a backslash, with all blanks and line ends that follow. -/
def dropJoint (cs : List Char) : Option (List Char) :=
  (lineEnd? (dropSpaces cs)).map dropBlankLines

/-- The inside of a string over several lines, after its opening quotes. Up to two quotes may
stand anywhere in it, also right before the closing ones. -/
def scanLongBasic : Nat → List Char → Option (List Char × List Char)
  | 0, _ => none
  | _, [] => none
  | _, '"' :: '"' :: '"' :: '"' :: '"' :: rest => some (['"', '"'], rest)
  | _, '"' :: '"' :: '"' :: '"' :: rest => some (['"'], rest)
  | _, '"' :: '"' :: '"' :: rest => some ([], rest)
  | fuel + 1, '\\' :: rest =>
    match dropJoint rest with
    | some rest => scanLongBasic fuel rest
    | none => do
      let (c, rest) ← scanEscape rest
      let (s, rest) ← scanLongBasic fuel rest
      return (c :: s, rest)
  | fuel + 1, '\r' :: '\n' :: rest => do
    let (s, rest) ← scanLongBasic fuel rest
    return ('\n' :: s, rest)
  | fuel + 1, c :: rest => do
    guard (isBasicChar c || c == '"' || c == '\n')
    let (s, rest) ← scanLongBasic fuel rest
    return (c :: s, rest)

/-- The inside of a string without escapes over several lines, after its opening quotes. -/
def scanLongLiteral : List Char → Option (List Char × List Char)
  | [] => none
  | '\'' :: '\'' :: '\'' :: '\'' :: '\'' :: rest => some (['\'', '\''], rest)
  | '\'' :: '\'' :: '\'' :: '\'' :: rest => some (['\''], rest)
  | '\'' :: '\'' :: '\'' :: rest => some ([], rest)
  | '\r' :: '\n' :: rest => do
    let (s, rest) ← scanLongLiteral rest
    return ('\n' :: s, rest)
  | c :: rest => do
    guard (isLiteralChar c || c == '\'' || c == '\n')
    let (s, rest) ← scanLongLiteral rest
    return (c :: s, rest)

/-- Drops the line end right after the opening quotes of a string over several lines. -/
def dropFirstLineEnd (cs : List Char) : List Char :=
  (lineEnd? cs).getD cs

/-- A string, if one begins here. -/
def scanText : List Char → Option (String × List Char)
  | '"' :: '"' :: '"' :: rest =>
    let rest := dropFirstLineEnd rest
    (scanLongBasic (rest.length + 1) rest).map fun (s, rest) => (.ofList s, rest)
  | '"' :: rest => (scanBasic (rest.length + 1) rest).map fun (s, rest) => (.ofList s, rest)
  | '\'' :: '\'' :: '\'' :: rest =>
    (scanLongLiteral (dropFirstLineEnd rest)).map fun (s, rest) => (.ofList s, rest)
  | '\'' :: rest => (scanLiteral rest).map fun (s, rest) => (.ofList s, rest)
  | _ => none

/-- Whether a character may stand in a key without quotes. -/
def isBareChar (c : Char) : Bool :=
  c.isAlphanum || c == '_' || c == '-'

/-- One part of a key. -/
def scanKeyPart : List Char → Option (String × List Char)
  | '"' :: rest => (scanBasic (rest.length + 1) rest).map fun (s, rest) => (.ofList s, rest)
  | '\'' :: rest => (scanLiteral rest).map fun (s, rest) => (.ofList s, rest)
  | cs =>
    let part := cs.takeWhile isBareChar
    if part.isEmpty then none else some (.ofList part, cs.dropWhile isBareChar)

/-- The parts of a dotted key, with blanks around each. -/
def scanKeyParts : Nat → List Char → Option (List String × List Char)
  | 0, _ => none
  | fuel + 1, cs => do
    let (part, rest) ← scanKeyPart (dropSpaces cs)
    match dropSpaces rest with
    | '.' :: rest =>
      let (parts, rest) ← scanKeyParts fuel rest
      return (part :: parts, rest)
    | rest => return ([part], rest)

/-- How deep arrays, inline tables and dotted keys may go, less one. -/
def nestingLimit : Nat := 80

/-- A dotted key: its leading parts and its last part. -/
def scanKey (cs : List Char) : Option ((List String × String) × List Char) := do
  let (parts, rest) ← scanKeyParts (cs.length + 1) cs
  guard (parts.length < nestingLimit)
  return ((parts.dropLast, ← parts.getLast?), rest)

end StarPlan.Toml
