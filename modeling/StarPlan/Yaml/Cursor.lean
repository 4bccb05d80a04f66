/-!
# Characters of YAML and places between them

Five characters break a line; a carriage return with a line feed breaks it once. Where a token
may stand depends on lines and columns, so what is left of a text goes with its place.

The number of a line is only ever compared with that of another place, and each of the two
characters of a joint line break counts as one here: two places have one number exactly when
no break stands between them.
-/

namespace StarPlan.Yaml

/-- Whether a character may stand in a text at all. -/
def isPrintable (c : Char) : Bool :=
  c == '\t' || c == '\n' || c == '\r' || ' ' ≤ c && c ≤ '~' || c.toNat == 0x85
    || 0xa0 ≤ c.toNat && c.toNat != 0xfffe && c.toNat != 0xffff

/-- Whether a character breaks a line. -/
def isBreak (c : Char) : Bool :=
  c == '\n' || c == '\r' || c == '\u0085' || c == '\u2028' || c == '\u2029'

/-- Whether a character is a blank inside a line. -/
def isSpace (c : Char) : Bool := c == ' ' || c == '\t'

/-- Whether a character separates words: a blank or a line break. -/
def isGap (c : Char) : Bool := isSpace c || isBreak c

/-- Whether a character may stand in the name of an anchor, a directive or a handle. -/
def isWordChar (c : Char) : Bool := c.isAlphanum || c == '_' || c == '-'

/-- Whether a text begins with a blank or line break, or ends here. -/
def endsWord : List Char → Bool
  | [] => true
  | c :: _ => isGap c

/-- The line breaks among characters, each as the one character that it is read as: a line
feed, but for the separators of lines and paragraphs, which stay. -/
def lineBreaks : List Char → List Char
  | '\r' :: '\n' :: cs => '\n' :: lineBreaks cs
  | c :: cs =>
    if c == '\u2028' || c == '\u2029' then c :: lineBreaks cs
    else if isBreak c then '\n' :: lineBreaks cs
    else lineBreaks cs
  | [] => []

/-- A place in a text: how many characters stand before it in all and in its line, and a number
of the line. -/
structure Place where
  index : Nat
  line : Nat
  column : Nat
deriving DecidableEq, Repr

/-- The place after a character. -/
def Place.after (p : Place) (c : Char) : Place :=
  if isBreak c then ⟨p.index + 1, p.line + 1, 0⟩ else ⟨p.index + 1, p.line, p.column + 1⟩

/-- What is left of a text, and its place. -/
structure Cursor where
  rest : List Char
  place : Place
deriving DecidableEq, Repr

namespace Cursor

/-- The start of a text. -/
def start (cs : List Char) : Cursor := ⟨cs, ⟨0, 0, 0⟩⟩

/-- The column of the next character. -/
def column (cur : Cursor) : Nat := cur.place.column

/-- Whether the next character is the given one. -/
def isAt (cur : Cursor) (c : Char) : Bool := cur.rest.head? == some c

/-- The place after a number of characters. -/
def drop (cur : Cursor) (n : Nat) : Cursor :=
  ⟨cur.rest.drop n, (cur.rest.take n).foldl Place.after cur.place⟩

/-- The characters up to the first one that fails a test, and the place before that one. -/
def span (cur : Cursor) (p : Char → Bool) : List Char × Cursor :=
  let taken := cur.rest.takeWhile p
  (taken, cur.drop taken.length)

/-- The place before the first character that fails a test. -/
def dropWhile (cur : Cursor) (p : Char → Bool) : Cursor := (cur.span p).2

/-- The place where only `rest` is left. -/
def upTo (cur : Cursor) (rest : List Char) : Cursor :=
  cur.drop (cur.rest.length - rest.length)

/-- The place after the given character, if it comes next. -/
def expect (cur : Cursor) (c : Char) : Option Cursor :=
  if cur.isAt c then some (cur.drop 1) else none

/-- One line break as it is read, and the place after it, if one comes next. -/
def takeBreak? (cur : Cursor) : Option (Char × Cursor) :=
  match cur.rest with
  | '\r' :: '\n' :: _ => some ('\n', cur.drop 2)
  | c :: _ =>
    if c == '\u2028' || c == '\u2029' then some (c, cur.drop 1)
    else if isBreak c then some ('\n', cur.drop 1)
    else none
  | [] => none

/-- The place after one line break, if one comes next. -/
def afterBreak? (cur : Cursor) : Option Cursor := cur.takeBreak?.map (·.2)

/-- The place before the line break that ends the line, or before the end of the text. -/
def endOfLine (cur : Cursor) : Cursor := cur.dropWhile fun c => !isBreak c

/-- Whether a line of three times the given character, and then a blank or an end, comes. -/
def isAtMark (cur : Cursor) (c : Char) : Bool :=
  cur.column == 0 && cur.rest.take 3 == [c, c, c] && endsWord (cur.rest.drop 3)

/-- Whether the mark of a document's start or end comes. -/
def isAtDocumentMark (cur : Cursor) : Bool := cur.isAtMark '-' || cur.isAtMark '.'

/-- The end of a line of which nothing is wanted any more: blanks, a comment, and the break or
the end of the text. -/
def finishLine (cur : Cursor) : Option Cursor :=
  let cur := cur.dropWhile isSpace
  let cur := if cur.isAt '#' then cur.endOfLine else cur
  match cur.rest with
  | [] => some cur
  | _ => cur.afterBreak?

end Cursor

example : lineBreaks ['\r', '\n', ' ', '\r', '\n', '\u2028'] = ['\n', '\n', '\u2028'] := by
  decide

end StarPlan.Yaml
