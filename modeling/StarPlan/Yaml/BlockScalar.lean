import StarPlan.Yaml.Cursor

/-!
# Block scalars

The text of a block scalar stands in the lines below its header. The header says whether line
breaks are kept or folded, what becomes of the last ones, and perhaps how far the lines are
indented; otherwise the first line with text says it. Only breaks between two lines that both
begin with text are folded.
-/

namespace StarPlan.Yaml

/-- What becomes of the line breaks at the end of a block scalar. -/
inductive Chomping where
  | strip
  | clip
  | keep
deriving DecidableEq, Repr

/-- The chomping that an indicator asks for. -/
def chomping? (cur : Cursor) : Option Chomping :=
  if cur.isAt '+' then some .keep else if cur.isAt '-' then some .strip else none

/-- The indentation that a header asks for, if it does. -/
def increment? (cur : Cursor) : Option Nat :=
  match cur.rest with
  | c :: _ => if c.isDigit then some (c.toNat - '0'.toNat) else none
  | [] => none

/-- A header after its first character, with the place after the rest of its line. The two
indicators stand in either order; an indentation of zero is refused. -/
def blockHeader (cur : Cursor) : Option (Chomping × Option Nat × Cursor) := do
  let (chomping, increment, cur) :=
    match chomping? cur with
    | some chomping =>
      let cur := cur.drop 1
      match increment? cur with
      | some n => (chomping, some n, cur.drop 1)
      | none => (chomping, none, cur)
    | none =>
      match increment? cur with
      | some n =>
        let cur := cur.drop 1
        match chomping? cur with
        | some chomping => (chomping, some n, cur.drop 1)
        | none => (.clip, some n, cur)
      | none => (.clip, none, cur)
  guard (increment != some 0)
  return (chomping, increment, ← cur.finishLine)

/-- Drops spaces, in front of a column if one is given. -/
def dropIndent (indent : Option Nat) (cur : Cursor) : Cursor :=
  let spaces := (cur.rest.takeWhile (· == ' ')).length
  match indent with
  | none => cur.drop spaces
  | some n => cur.drop (min spaces (n - cur.column))

/-- Empty lines of a block scalar: their breaks, the widest indentation met, and the place
after them. No tab may stand for the indentation. -/
def blankLines (indent : Option Nat) :
    Nat → Nat → Cursor → Option (List Char × Nat × Cursor)
  | 0, _, _ => none
  | fuel + 1, widest, cur => do
    let cur := dropIndent indent cur
    let widest := max widest cur.column
    guard !(cur.isAt '\t' && indent.all (cur.column < ·))
    match cur.takeBreak? with
    | none => return ([], widest, cur)
    | some (c, next) =>
      let (breaks, widest, next) ← blankLines indent fuel widest next
      return (c :: breaks, widest, next)

/-- What comes of the lines of a block scalar: their text without the last line breaks, the
break of the last line with text, and those of the empty lines after it. -/
structure BlockScan where
  text : List Char
  lastBreak : List Char
  emptyLines : List Char
  after : Cursor

/-- What stands between two lines of a block scalar, of which it is known whether they begin
with a blank: the break of the first and those of the empty lines between them. -/
def betweenLines (isLiteral blankBefore blankAfter : Bool) (lastBreak emptyLines : List Char) :
    List Char :=
  if !isLiteral && lastBreak == ['\n'] && !blankBefore && !blankAfter then
    if emptyLines.isEmpty then [' '] else emptyLines
  else lastBreak ++ emptyLines

/-- The lines of a block scalar from a place on, given what stands between the line before and
this place. -/
def blockLines (isLiteral : Bool) (indent : Nat) :
    Nat → Bool → List Char → List Char → Cursor → Option BlockScan
  | 0, _, _, _, _ => none
  | fuel + 1, blankBefore, lastBreak, emptyLines, cur =>
    match cur.rest with
    | [] => some ⟨[], lastBreak, emptyLines, cur⟩
    | c :: _ =>
      if cur.column != indent then some ⟨[], lastBreak, emptyLines, cur⟩
      else do
        let between := betweenLines isLiteral blankBefore (isSpace c) lastBreak emptyLines
        let (line, next) := cur.span fun c => !isBreak c
        let (lastBreak, next) := match next.takeBreak? with
          | some (b, next) => ([b], next)
          | none => ([], next)
        let (emptyLines, _, next) ← blankLines (some indent) (next.rest.length + 1) 0 next
        let tail ← blockLines isLiteral indent fuel (isSpace c) lastBreak emptyLines next
        return { tail with text := between ++ line ++ tail.text }

/-- The text of a block scalar that begins at a place, and the place after it. The column of
the collection around it, if there is one, is what its indentation is counted from. -/
def blockScalar (isLiteral : Bool) (around : Option Nat) (cur : Cursor) :
    Option (List Char × Cursor) := do
  let (chomping, increment, cur) ← blockHeader (cur.drop 1)
  let asked := increment.map (around.getD 0 + ·)
  let (emptyLines, widest, cur) ← blankLines asked (cur.rest.length + 1) 0 cur
  let indent := asked.getD (max (max widest 1) ((around.map (· + 1)).getD 0))
  let scan ← blockLines isLiteral indent (cur.rest.length + 1) false [] emptyLines cur
  let ending := match chomping with
    | .strip => []
    | .clip => scan.lastBreak
    | .keep => scan.lastBreak ++ scan.emptyLines
  return (scan.text ++ ending, scan.after)

end StarPlan.Yaml
