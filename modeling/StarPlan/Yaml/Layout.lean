import StarPlan.Yaml.BlockScalar
import StarPlan.Yaml.PlainScalar
import StarPlan.Yaml.Property
import StarPlan.Yaml.QuotedScalar

/-!
# From characters to tokens

The layout of a text is followed token by token. Block collections are open at the columns at
which they began; a token further to the left closes them.

A key of a mapping needs no indicator: any token that may be one is remembered until a colon
turns it into a key, after the fact, or until it is too late for that, because the line has
ended or too many characters have passed. Tokens from such a place on are held back. Where the
column demands a key, missing the colon is an error.

From the first error on nothing is told, and what was held back then stays untold.
-/

namespace StarPlan.Yaml

/-- A place at which a key may have begun without an indicator. -/
structure KeyPlace where
  place : Place
  /-- How many tokens come before it. -/
  number : Nat
  isRequired : Bool
deriving DecidableEq, Repr

/-- How many characters may stand between the start of a key and its colon. -/
def keyReach : Nat := 1024

/-- Whether it is too late for a colon that turns a place into a key. -/
def KeyPlace.isLate (k : KeyPlace) (now : Place) : Bool :=
  k.place.line < now.line || k.place.index + keyReach < now.index

/-- The layout of a text up to a place. -/
structure Layout where
  cursor : Cursor
  /-- The columns of the open block collections, the innermost first. -/
  columns : List Nat
  /-- The place at which a key may have begun, in the innermost brackets. -/
  keyPlace : Option KeyPlace
  /-- The same for the brackets around, the innermost first, and for the outside of all. -/
  outerPlaces : List (Option KeyPlace)
  /-- Whether a key may begin here without an indicator. -/
  allowsKey : Bool
  /-- How many tokens were told. -/
  told : Nat
  /-- Tokens that are held back. -/
  pending : List Token

namespace Layout

/-- The layout at the start of a text. -/
def start (cs : List Char) : Layout := ⟨.start cs, [], none, [], true, 0, []⟩

/-- Whether the place is between brackets. -/
def inFlow (l : Layout) : Bool := !l.outerPlaces.isEmpty

/-- The column of the next character. -/
def column (l : Layout) : Nat := l.cursor.column

/-- The layout at another place. -/
def moveTo (l : Layout) (cur : Cursor) : Layout := { l with cursor := cur }

/-- Adds a token. -/
def push (l : Layout) (t : Token) : Layout := { l with pending := l.pending ++ [t] }

/-- Adds a token of a given number of characters. -/
def pushMark (l : Layout) (t : Token) (width : Nat) : Layout :=
  (l.push t).moveTo (l.cursor.drop width)

/-- Adds a token behind a number of tokens. -/
def insertAt (l : Layout) (number : Nat) (t : Token) : Layout :=
  { l with pending := l.pending.insertIdx (number - l.told) t }

/-- Says whether a key may begin next. -/
def allowing (l : Layout) (allowsKey : Bool) : Layout := { l with allowsKey }

/-- Gives up the place of a key, unless a key is required there. -/
def forgetKey (l : Layout) : Option Layout :=
  if l.keyPlace.any KeyPlace.isRequired then none else some { l with keyPlace := none }

/-- Remembers the place as that of a key, if a key may begin here. -/
def rememberKey (l : Layout) : Option Layout := do
  if !l.allowsKey then return l
  let l ← l.forgetKey
  let isRequired := !l.inFlow && l.columns.head? == some l.column
  return { l with keyPlace := some ⟨l.cursor.place, l.told + l.pending.length, isRequired⟩ }

/-- The place of a key, unless it is too late for the colon. -/
def keepFresh (now : Place) : Option KeyPlace → Option (Option KeyPlace)
  | none => some none
  | some k =>
    if !k.isLate now then some (some k) else if k.isRequired then none else some none

/-- Gives up all places of keys that are too late for the colon. -/
def refreshKeys (l : Layout) : Option Layout := do
  let now := l.cursor.place
  let keyPlace ← keepFresh now l.keyPlace
  let outerPlaces ← l.outerPlaces.mapM (keepFresh now)
  return { l with keyPlace, outerPlaces }

/-- Opens a block collection at a column, unless one is open there or further to the right. Its
token goes behind a number of tokens. -/
def openColumn (l : Layout) (column number : Nat) (t : Token) : Layout :=
  if l.inFlow || l.columns.head?.any (column ≤ ·) then l
  else { l with columns := column :: l.columns }.insertAt number t

/-- Opens a block collection at the place. -/
def openHere (l : Layout) (t : Token) : Layout :=
  l.openColumn l.column (l.told + l.pending.length) t

/-- Closes the block collections that a test of their columns asks for. -/
def closeWhile (l : Layout) (p : Nat → Bool) : Layout :=
  if l.inFlow then l
  else
    { l with
      columns := l.columns.dropWhile p
      pending := l.pending ++ (l.columns.takeWhile p).map fun _ => Token.blockEnd }

/-- Closes all block collections, for something that stands outside of them. -/
def closeAll (l : Layout) : Option Layout :=
  (l.closeWhile fun _ => true).forgetKey.map (·.allowing false)

/-- Passes over blanks, comments and line breaks. A tab may stand where no key may begin. -/
def skipGap : Nat → Layout → Layout
  | 0, l => l
  | fuel + 1, l =>
    let withTabs := l.inFlow || !l.allowsKey
    let cur := l.cursor.dropWhile fun c => c == ' ' || withTabs && c == '\t'
    let cur := if cur.isAt '#' then cur.endOfLine else cur
    match cur.afterBreak? with
    | some next => skipGap fuel ((l.moveTo next).allowing (l.allowsKey || !l.inFlow))
    | none => l.moveTo cur

/-- Passes over a byte order mark at the start. -/
def skipOrderMark (l : Layout) : Layout :=
  if l.cursor.place.index == 0 && l.cursor.isAt '\ufeff' then l.moveTo (l.cursor.drop 1) else l

/-- Goes on to the next token. -/
def toToken (l : Layout) : Layout := skipGap (l.cursor.rest.length + 1) l.skipOrderMark

/-- The end of the text. -/
def endStream (l : Layout) : Option Layout := do
  let p := l.cursor.place
  let l := if p.column == 0 then l else l.moveTo ⟨l.cursor.rest, ⟨p.index, p.line + 1, 0⟩⟩
  return (← l.closeAll).push .streamEnd

/-- An opening bracket. -/
def openFlow (l : Layout) (t : Token) : Option Layout := do
  let l ← l.rememberKey
  let l := { l with keyPlace := none, outerPlaces := l.keyPlace :: l.outerPlaces }
  return (l.allowing true).pushMark t 1

/-- A closing bracket. -/
def closeFlow (l : Layout) (t : Token) : Option Layout := do
  let l ← l.forgetKey
  let l := match l.outerPlaces with
    | [] => l
    | k :: outer => { l with keyPlace := k, outerPlaces := outer }
  return (l.allowing false).pushMark t 1

/-- A dash in front of an item. -/
def blockEntry (l : Layout) : Option Layout := do
  guard (l.inFlow || l.allowsKey)
  let l ← (l.openHere .blockSequence).forgetKey
  return (l.allowing true).pushMark .blockEntry 1

/-- A question mark in front of a key. -/
def explicitKey (l : Layout) : Option Layout := do
  guard (l.inFlow || l.allowsKey)
  let l ← (l.openHere .blockMapping).forgetKey
  return (l.allowing !l.inFlow).pushMark .key 1

/-- A colon in front of a value. -/
def valueMark (l : Layout) : Option Layout :=
  match l.keyPlace with
  | some k =>
    let l := (l.insertAt k.number .key).openColumn k.place.column k.number .blockMapping
    some (({ l with keyPlace := none }.allowing false).pushMark .value 1)
  | none => do
    guard (l.inFlow || l.allowsKey)
    let l := l.openHere .blockMapping
    return (l.allowing !l.inFlow).pushMark .value 1

/-- A token that may be a key. -/
def keyLike (l : Layout) (scan : Cursor → Option (Token × Cursor)) : Option Layout := do
  let l ← l.rememberKey
  let (t, next) ← scan l.cursor
  return ((l.allowing false).push t).moveTo next

/-- A token that is made of the name of an anchor. -/
def scanNamed (make : String → Token) (cur : Cursor) : Option (Token × Cursor) :=
  (scanAnchor cur).map fun (name, next) => (make name, next)

/-- A plain scalar. Where it ends after a line break, a key may begin. -/
def plain (l : Layout) : Option Layout := do
  let l ← l.rememberKey
  let least := (l.columns.head?.map (· + 1)).getD 0
  let scan ← plainScalar l.inFlow least l.cursor
  return ((l.allowing scan.inNewLine).push (.scalar (.ofList scan.text) true)).moveTo scan.after

/-- A block scalar. -/
def block (l : Layout) (isLiteral : Bool) : Option Layout := do
  let l ← l.forgetKey
  let (text, next) ← blockScalar isLiteral l.columns.head? l.cursor
  return ((l.allowing true).push (.scalar (.ofList text) false)).moveTo next

/-- The tokens of a directive. -/
def directive (l : Layout) : Option Layout := do
  let l ← l.closeAll
  let (t, next) ← scanDirective l.cursor
  return (l.push t).moveTo next

/-- Characters with a meaning of their own, with which no plain scalar begins. -/
def isIndicator (c : Char) : Bool :=
  ['-', '?', ':', ',', '[', ']', '{', '}', '#', '&', '*', '!', '|', '>', '\'', '"', '%', '@',
    '\x60'].contains c

/-- Whether a plain scalar may begin with a character, by what follows it. -/
def beginsPlain (inFlow : Bool) (c : Char) (cs : List Char) : Bool :=
  !isGap c && !isIndicator c || c == '-' && !cs.head?.any isSpace
    || !inFlow && (c == '?' || c == ':') && !endsWord cs

/-- The tokens that begin with a character, of which `cs` follows. -/
def scanFrom (l : Layout) (c : Char) (cs : List Char) : Option Layout :=
  let alone := endsWord cs
  if l.column == 0 && c == '%' then l.directive
  else if l.cursor.isAtMark '-' then l.closeAll.map (·.pushMark .documentStart 3)
  else if l.cursor.isAtMark '.' then l.closeAll.map (·.pushMark .documentEnd 3)
  else if c == '[' then l.openFlow .flowSequence
  else if c == '{' then l.openFlow .flowMapping
  else if c == ']' then l.closeFlow .flowSequenceEnd
  else if c == '}' then l.closeFlow .flowMappingEnd
  else if c == ',' then l.forgetKey.map fun l => (l.allowing true).pushMark .flowEntry 1
  else if c == '-' && alone then l.blockEntry
  else if c == '?' && (l.inFlow || alone) then l.explicitKey
  else if c == ':' && (l.inFlow || alone) then l.valueMark
  else if c == '*' then l.keyLike (scanNamed .reference)
  else if c == '&' then l.keyLike (scanNamed .anchor)
  else if c == '!' then l.keyLike (scanTag l.inFlow)
  else if c == '|' && !l.inFlow then l.block true
  else if c == '>' && !l.inFlow then l.block false
  else if c == '\'' || c == '"' then
    l.keyLike fun cur => (quotedScalar (c == '\'') cur).map fun (s, next) =>
      (.scalar (.ofList s) false, next)
  else if beginsPlain l.inFlow c cs then l.plain
  else none

/-- Takes the token at the place, after those that the indentation demands before it. -/
def take (l : Layout) : Option Layout := do
  let l ← l.refreshKeys
  let l := l.closeWhile (l.column < ·)
  match l.cursor.rest with
  | [] => l.endStream
  | c :: cs => l.scanFrom c cs

/-- How many tokens come before all places at which a key may have begun. -/
def readyUpTo (l : Layout) : Nat :=
  (l.keyPlace :: l.outerPlaces).foldl (fun n k => (k.map (min n ·.number)).getD n)
    (l.told + l.pending.length)

/-- Tells the tokens that need not be held back any longer. -/
def release (l : Layout) : List Token × Layout :=
  let n := l.readyUpTo - l.told
  (l.pending.take n, { l with told := l.told + n, pending := l.pending.drop n })

/-- The tokens that are told from a place on. -/
def tokens : Nat → Layout → List Token
  | 0, _ => []
  | fuel + 1, l =>
    let l := l.toToken
    match l.take.bind refreshKeys with
    | none => []
    | some after =>
      let (ready, after) := after.release
      if l.cursor.rest.isEmpty then ready else ready ++ tokens fuel after

end Layout

/-- The tokens of a text, as far as they can be made out. -/
def Token.ofText (text : String) : List Token :=
  let cs := text.toList
  if cs.all isPrintable then (Layout.start cs).tokens (cs.length + 2) else []

end StarPlan.Yaml
