import StarPlan.Number.Float
import StarPlan.Yaml.Cursor
import StarPlan.Yaml.Token

/-!
# Names in YAML: anchors, tags and directives

An anchor names a node, a tag its type, and directives in front of a document say what the
handles of its tags stand for. Each scanner begins at the character that introduces what it
reads.
-/

namespace StarPlan.Yaml

/-- What may follow the name of an anchor. -/
def endsAnchor : List Char → Bool
  | [] => true
  | c :: _ => isGap c || ['?', ':', ',', ']', '}', '%', '@', '\x60'].contains c

/-- The name of an anchor, after the character that introduces it. -/
def scanAnchor (cur : Cursor) : Option (String × Cursor) := do
  let (name, next) := (cur.drop 1).span isWordChar
  guard (!name.isEmpty && endsAnchor next.rest)
  return (.ofList name, next)

/-- Whether a character may stand in a tag. Flow indicators may only do so between angle
brackets and in a directive. -/
def isTagChar (withFlowMarks : Bool) (c : Char) : Bool :=
  let marks :=
    [';', '/', '?', ':', '@', '&', '=', '+', '$', '.', '%', '!', '~', '*', '\'', '(', ')']
  isWordChar c || marks.contains c || withFlowMarks && [',', '[', ']'].contains c

/-- How many octets a character takes that begins with an octet. -/
def octetCount? (octet : Nat) : Option Nat :=
  if octet < 0x80 then some 1
  else if 0xc0 ≤ octet && octet < 0xe0 then some 2
  else if 0xe0 ≤ octet && octet < 0xf0 then some 3
  else if 0xf0 ≤ octet && octet < 0xf8 then some 4
  else none

/-- The escaped octets that continue a character, each kept as a character of its own. -/
def scanOctets : Nat → List Char → Option (List Char × List Char)
  | 0, cs => some ([], cs)
  | n + 1, '%' :: a :: b :: cs => do
    let octet ← baseDigits? 16 [a, b]
    guard (0x80 ≤ octet && octet < 0xc0)
    let (more, cs) ← scanOctets n cs
    return (Char.ofNat octet :: more, cs)
  | _ + 1, _ => none

/-- An escaped character of a tag. -/
def scanTagEscape : List Char → Option (List Char × List Char)
  | '%' :: a :: b :: cs => do
    let octet ← baseDigits? 16 [a, b]
    let (more, cs) ← scanOctets ((← octetCount? octet) - 1) cs
    return (Char.ofNat octet :: more, cs)
  | _ => none

/-- The characters of a tag. -/
def scanTagChars (withFlowMarks : Bool) : Nat → List Char → Option (List Char × List Char)
  | 0, cs => some ([], cs)
  | _, [] => some ([], [])
  | fuel + 1, c :: cs =>
    if c == '%' then do
      let (octets, cs) ← scanTagEscape (c :: cs)
      let (more, cs) ← scanTagChars withFlowMarks fuel cs
      return (octets ++ more, cs)
    else if isTagChar withFlowMarks c then
      (scanTagChars withFlowMarks fuel cs).map fun (more, cs) => (c :: more, cs)
    else some ([], c :: cs)

/-- The characters of a tag at a place, perhaps none. -/
def tagChars (withFlowMarks : Bool) (cur : Cursor) : Option (List Char × Cursor) :=
  (scanTagChars withFlowMarks cur.rest.length cur.rest).map fun (text, rest) =>
    (text, cur.upTo rest)

/-- The same, with at least one character. -/
def someTagChars (withFlowMarks : Bool) (cur : Cursor) : Option (List Char × Cursor) :=
  (tagChars withFlowMarks cur).filter fun (_, next) => next.place != cur.place

/-- A run from an exclamation mark to a second one, or to the end of the word. -/
def handleChars (cur : Cursor) : List Char × Cursor :=
  let (word, next) := (cur.drop 1).span isWordChar
  if next.isAt '!' then ('!' :: word ++ ['!'], next.drop 1) else ('!' :: word, next)

/-- Handle and suffix of a tag. A tag between angle brackets has an empty handle, and so has
the exclamation mark alone; where only one mark stands, it is the handle. -/
def tagParts (cur : Cursor) : Option ((String × String) × Cursor) :=
  if cur.rest.take 2 == ['!', '<'] then do
    let (suffix, next) ← someTagChars true (cur.drop 2)
    return (("", .ofList suffix), ← next.expect '>')
  else
    let (word, next) := handleChars cur
    if 2 ≤ word.length && word.getLast? == some '!' then do
      let (suffix, next) ← someTagChars false next
      return ((.ofList word, .ofList suffix), next)
    else do
      let (more, next) ← tagChars false next
      let suffix := word.drop 1 ++ more
      return (if suffix.isEmpty then ("", "!") else ("!", .ofList suffix), next)

/-- A tag. It ends before a gap, or before a comma between brackets. -/
def scanTag (inFlow : Bool) (cur : Cursor) : Option (Token × Cursor) := do
  let ((handle, suffix), next) ← tagParts cur
  guard (endsWord next.rest || inFlow && next.isAt ',')
  return (.tag handle suffix, next)

/-- A number of at most nine digits. -/
def scanVersionNumber (cur : Cursor) : Option (Nat × Cursor) := do
  let (digits, next) := cur.span Char.isDigit
  guard (1 ≤ digits.length && digits.length ≤ 9)
  return (decimalDigits digits, next)

/-- The two numbers of a version, after blanks. -/
def scanVersion (cur : Cursor) : Option (Token × Cursor) := do
  let (major, next) ← scanVersionNumber (cur.dropWhile isSpace)
  let (minor, next) ← scanVersionNumber (← next.expect '.')
  return (.version major minor, next)

/-- A handle and what it stands for, after blanks. -/
def scanHandle (cur : Cursor) : Option (Token × Cursor) := do
  let cur := cur.dropWhile isSpace
  guard (cur.isAt '!')
  let (word, next) := handleChars cur
  guard (word == ['!'] || 2 ≤ word.length && word.getLast? == some '!')
  let blanks := next.dropWhile isSpace
  guard (blanks.place != next.place)
  let (content, next) ← someTagChars true blanks
  guard (endsWord next.rest)
  return (.handle (.ofList word) (.ofList content), next)

/-- A directive with the rest of its line. -/
def scanDirective (cur : Cursor) : Option (Token × Cursor) := do
  let (name, next) := (cur.drop 1).span isWordChar
  guard (endsWord next.rest)
  let (token, next) ←
    if name == ['Y', 'A', 'M', 'L'] then scanVersion next
    else if name == ['T', 'A', 'G'] then scanHandle next
    else none
  return (token, ← next.finishLine)

end StarPlan.Yaml
