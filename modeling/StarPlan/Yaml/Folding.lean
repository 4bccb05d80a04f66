import StarPlan.Yaml.Cursor

/-!
# Folded text

The words of a scalar may be spread over lines. A gap without a line break is kept as it
stands; a single line feed becomes a space, and of several the first is dropped. A separator of
lines or paragraphs is never dropped.
-/

namespace StarPlan.Yaml

/-- What line breaks become inside a folded scalar. -/
def foldBreaks : List Char → List Char
  | ['\n'] => [' ']
  | '\n' :: more => more
  | breaks => breaks

/-- What a gap of blanks and line breaks becomes inside a folded scalar. -/
def foldGap (gap : List Char) : List Char :=
  if gap.any isBreak then foldBreaks (lineBreaks gap) else gap

/-- Whether a gap has a tab left of a column, in any line of it but the first. Whether a line
began in the gap and the column are given. -/
def hasShallowTab (least : Nat) (inNewLine : Bool) (column : Nat) : List Char → Bool
  | [] => false
  | c :: cs =>
    if isBreak c then hasShallowTab least true 0 cs
    else inNewLine && c == '\t' && column < least || hasShallowTab least inNewLine (column + 1) cs

example : foldGap [' ', '\n', ' '] = [' '] := by decide

example : foldGap ['\n', '\r', '\n', '\n'] = ['\n', '\n'] := by decide

end StarPlan.Yaml
