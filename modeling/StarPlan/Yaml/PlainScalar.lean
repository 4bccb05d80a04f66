import StarPlan.Yaml.Folding

/-!
# Plain scalars

A scalar without quotes goes on over gaps and line breaks until something ends it: a colon
before a gap, a comment after a gap, a mark of a document, a line that is not indented enough,
or, between brackets, a bracket or comma.
-/

namespace StarPlan.Yaml

/-- Whether a character is a bracket or comma of the flow style. -/
def isFlowMark (c : Char) : Bool :=
  c == ',' || c == '[' || c == ']' || c == '{' || c == '}'

/-- The characters of a plain scalar up to a gap or to its end. Between brackets a colon must
not be followed by another indicator. -/
def plainRun (inFlow : Bool) : List Char → Option (List Char)
  | [] => some []
  | c :: cs =>
    if isGap c then some []
    else if c == ':' && inFlow && cs.head?.any (fun d => isFlowMark d || d == '?') then none
    else if c == ':' && endsWord cs then some []
    else if inFlow && isFlowMark c then some []
    else (plainRun inFlow cs).map (c :: ·)

/-- What a plain scalar comes to: its text, whether it ends after a line break, and the place
after it. -/
structure PlainScan where
  text : List Char
  inNewLine : Bool
  after : Cursor

/-- The rest of a plain scalar. The gap before it is part of the text only if more text
follows. -/
def plainRest (inFlow : Bool) (least : Nat) : Nat → List Char → Cursor → Option PlainScan
  | 0, _, _ => none
  | fuel + 1, gap, cur =>
    let stopped : PlainScan := ⟨[], gap.any isBreak, cur⟩
    if cur.isAtDocumentMark || cur.isAt '#' then some stopped
    else do
      let run ← plainRun inFlow cur.rest
      if run.isEmpty then return stopped
      let text := foldGap gap ++ run
      let cur := cur.drop run.length
      let (gap, next) := cur.span isGap
      if gap.isEmpty then return ⟨text, false, cur⟩
      guard (!hasShallowTab least false cur.column gap)
      if !inFlow && next.column < least then return ⟨text, gap.any isBreak, next⟩
      let tail ← plainRest inFlow least fuel gap next
      return { tail with text := text ++ tail.text }

/-- A plain scalar that begins at a place; in block style its lines must reach a column. -/
def plainScalar (inFlow : Bool) (least : Nat) (cur : Cursor) : Option PlainScan :=
  plainRest inFlow least (cur.rest.length + 1) [] cur

end StarPlan.Yaml
