import StarPlan.Files.Tree

/-!
# Patterns of paths

A pattern is written like a path. In a name of it, a question mark stands for any character, a
star for any number of them, and brackets for one of the characters or ranges between them, or
for none of those after an exclamation mark. A name of two stars stands for any number of
folders; two stars have no other place in a pattern.
-/

namespace StarPlan

/-- Characters from one to another. -/
structure CharRange where
  first : Char
  last : Char
deriving DecidableEq, Repr

/-- Whether a character is in a range. -/
def CharRange.contains (r : CharRange) (c : Char) : Bool := r.first ≤ c && c ≤ r.last

/-- A part of the pattern of a name. -/
inductive NamePart where
  | char (c : Char)
  | any
  | many
  | oneOf (ranges : List CharRange)
  | noneOf (ranges : List CharRange)
deriving DecidableEq, Repr

/-- The pattern of a name on a path. -/
inductive NamePattern where
  | folders
  | parts (parts : List NamePart)
deriving DecidableEq, Repr

namespace NamePart

/-- Whether a part stands for a character. -/
def admits (p : NamePart) (c : Char) : Bool :=
  match p with
  | char d => c == d
  | any | many => true
  | oneOf ranges => ranges.any (·.contains c)
  | noneOf ranges => !ranges.any (·.contains c)

/-- Whether parts stand for a whole text. -/
def matchAll : List NamePart → List Char → Bool
  | [], cs => cs.isEmpty
  | many :: ps, [] => matchAll ps []
  | many :: ps, c :: cs => matchAll ps (c :: cs) || matchAll (many :: ps) cs
  | _ :: _, [] => false
  | p :: ps, c :: cs => p.admits c && matchAll ps cs
termination_by ps cs => (ps.length, cs.length)

/-- The ranges between brackets. -/
def ranges : List Char → List CharRange
  | first :: '-' :: last :: cs => ⟨first, last⟩ :: ranges cs
  | c :: cs => ⟨c, c⟩ :: ranges cs
  | [] => []

/-- The inside of brackets, which has at least one character and may begin with a closing
bracket, and what follows them. -/
def bracketed : List Char → Option (List Char × List Char)
  | [] => none
  | c :: cs =>
    match cs.dropWhile (· != ']') with
    | [] => none
    | _ :: rest => some (c :: cs.takeWhile (· != ']'), rest)

/-- The parts of a name's pattern. Stars in a row, and brackets that are not closed, are
refused. -/
def scan : Nat → List Char → Option (List NamePart)
  | 0, _ => some []
  | _, [] => some []
  | fuel + 1, '?' :: cs => (scan fuel cs).map (any :: ·)
  | _ + 1, '*' :: '*' :: _ => none
  | fuel + 1, '*' :: cs => (scan fuel cs).map (many :: ·)
  | fuel + 1, '[' :: '!' :: cs => do
    let (inside, rest) ← bracketed cs
    return noneOf (ranges inside) :: (← scan fuel rest)
  | fuel + 1, '[' :: cs => do
    let (inside, rest) ← bracketed cs
    return oneOf (ranges inside) :: (← scan fuel rest)
  | fuel + 1, c :: cs => (scan fuel cs).map (char c :: ·)

/-- Parts that are all plain characters stand for the one text that they write. -/
theorem matchAll_map_char (cs ds : List Char) : matchAll (cs.map char) ds ↔ ds = cs := by
  induction cs generalizing ds with
  | nil => simp [matchAll]
  | cons c cs ih => cases ds <;> simp [matchAll, admits, ih]

end NamePart

namespace NamePattern

/-- The pattern for one name only. -/
def exactly (name : String) : NamePattern := .parts (name.toList.map .char)

/-- The pattern for all names with an ending. -/
def withEnding (ending : String) : NamePattern :=
  .parts (.many :: .char '.' :: ending.toList.map .char)

/-- The pattern that a text writes. -/
def ofText? (text : String) : Option NamePattern :=
  if text = "**" then some .folders
  else (NamePart.scan text.length text.toList).map .parts

end NamePattern

/-- A pattern of paths. -/
abbrev PathPattern := List NamePattern

namespace PathPattern

/-- Whether a pattern stands for a path. -/
def covers : PathPattern → FilePath → Bool
  | [], path => path.isEmpty
  | .folders :: ps, [] => covers ps []
  | .folders :: ps, name :: path => covers ps (name :: path) || covers (.folders :: ps) path
  | .parts _ :: _, [] => false
  | .parts parts :: ps, name :: path => NamePart.matchAll parts name.toList && covers ps path
termination_by ps path => (ps.length, path.length)

/-- Whether one path comes before another: by the names in order. -/
def precedes : FilePath → FilePath → Bool
  | [], _ => true
  | _ :: _, [] => false
  | a :: p, b :: q => a < b || a == b && precedes p q

/-- What stands at the paths that one of several patterns stands for, in the order of the
paths. -/
def select (ps : List PathPattern) (t : FileTree) : List (FilePath × FileEntry) :=
  (t.entries.filter fun e => ps.any fun p => covers p e.1).mergeSort fun a b => precedes a.1 b.1

end PathPattern

end StarPlan
