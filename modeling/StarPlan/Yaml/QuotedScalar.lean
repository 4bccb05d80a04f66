import StarPlan.Number.Float
import StarPlan.Yaml.Folding

/-!
# Quoted scalars

A scalar in single quotes has one escape, the doubled quote; one in double quotes has escapes
behind a backslash, among them one that swallows a line break. Gaps with line breaks are
folded. No mark of a document may begin a line inside.
-/

namespace StarPlan.Yaml

/-- The character that a one-character escape stands for. -/
def escape? : Char → Option Char
  | '0' => some '\x00'
  | 'a' => some '\x07'
  | 'b' => some '\x08'
  | 't' | '\t' => some '\t'
  | 'n' => some '\n'
  | 'v' => some '\x0b'
  | 'f' => some '\x0c'
  | 'r' => some '\r'
  | 'e' => some '\x1b'
  | ' ' => some ' '
  | '"' => some '"'
  | '/' => some '/'
  | '\\' => some '\\'
  | 'N' => some '\u0085'
  | '_' => some '\u00a0'
  | 'L' => some '\u2028'
  | 'P' => some '\u2029'
  | _ => none

/-- How many hexadecimal digits an escape takes. -/
def escapeWidth? : Char → Option Nat
  | 'x' => some 2
  | 'u' => some 4
  | 'U' => some 8
  | _ => none

/-- How a run of characters inside quotes ends: before a gap or the closing quote, or after a
swallowed line break. -/
structure QuotedRun where
  text : List Char
  isJoined : Bool
  rest : List Char

/-- Adds a character in front of a run. -/
def QuotedRun.cons (c : Char) (r : QuotedRun) : QuotedRun := { r with text := c :: r.text }

/-- A run of characters in single quotes. -/
def singleRun : List Char → QuotedRun
  | '\'' :: '\'' :: cs => (singleRun cs).cons '\''
  | c :: cs => if isGap c || c == '\'' then ⟨[], false, c :: cs⟩ else (singleRun cs).cons c
  | [] => ⟨[], false, []⟩

/-- What is left behind the line break that an escape swallows. -/
def afterJoint? : List Char → Option (List Char)
  | '\r' :: '\n' :: cs => some cs
  | c :: cs => if isBreak c then some cs else none
  | [] => none

/-- The character of an escape, after the backslash, and what follows. -/
def scanEscape : List Char → Option (Char × List Char)
  | [] => none
  | e :: cs =>
    match escapeWidth? e with
    | some width => do
      guard (width ≤ cs.length)
      return (← charAt? (← baseDigits? 16 (cs.take width)), cs.drop width)
    | none => (escape? e).map (·, cs)

/-- A run of characters in double quotes. -/
def doubleRun : Nat → List Char → Option QuotedRun
  | 0, _ => none
  | _, [] => some ⟨[], false, []⟩
  | fuel + 1, '\\' :: cs =>
    match afterJoint? cs with
    | some cs => some ⟨[], true, cs⟩
    | none => do
      let (c, cs) ← scanEscape cs
      return (← doubleRun fuel cs).cons c
  | fuel + 1, c :: cs =>
    if isGap c || c == '"' then some ⟨[], false, c :: cs⟩
    else (doubleRun fuel cs).map (·.cons c)

/-- A run of characters in quotes of either kind. -/
def quotedRun (isSingle : Bool) (cs : List Char) : Option QuotedRun :=
  if isSingle then some (singleRun cs) else doubleRun (cs.length + 1) cs

/-- The rest of a quoted scalar, and the place after its closing quote. -/
def quotedRest (isSingle : Bool) : Nat → Cursor → Option (List Char × Cursor)
  | 0, _ => none
  | fuel + 1, cur => do
    guard (!cur.isAtDocumentMark && !cur.rest.isEmpty)
    let run ← quotedRun isSingle cur.rest
    let cur := cur.upTo run.rest
    if cur.isAt (if isSingle then '\'' else '"') then return (run.text, cur.drop 1)
    let (gap, next) := cur.span isGap
    let folded := if run.isJoined then lineBreaks gap else foldGap gap
    let (tail, next) ← quotedRest isSingle fuel next
    return (run.text ++ folded ++ tail, next)

/-- The text of a quoted scalar that begins at a place, and the place after it. -/
def quotedScalar (isSingle : Bool) (cur : Cursor) : Option (List Char × Cursor) :=
  quotedRest isSingle (cur.rest.length + 1) (cur.drop 1)

end StarPlan.Yaml
