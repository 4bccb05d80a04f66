/-!
# White space

A blank is a character with the Unicode property `White_Space`; there are twenty-five of them.
Everything the planner trims, splits or calls empty is judged by this one table, so a
zero-width space or a file separator is ordinary text.

Letter case is folded for the ASCII letters alone.
-/

namespace StarPlan.Text

/-- First and last code point of each run of blanks, in ascending order. -/
def blankRuns : List (Nat × Nat) :=
  [(0x09, 0x0d), (0x20, 0x20), (0x85, 0x85), (0xa0, 0xa0), (0x1680, 0x1680), (0x2000, 0x200a),
   (0x2028, 0x2029), (0x202f, 0x202f), (0x205f, 0x205f), (0x3000, 0x3000)]

/-- Whether a character is white space. -/
def isBlank (c : Char) : Bool :=
  blankRuns.any fun run => run.1 ≤ c.toNat && c.toNat ≤ run.2

/-- Characters without the blanks at either end. -/
def trimChars (cs : List Char) : List Char :=
  ((cs.dropWhile isBlank).reverse.dropWhile isBlank).reverse

/-- A text without the blanks at either end. -/
def trim (s : String) : String :=
  String.ofList (trimChars s.toList)

/-- Whether a text is empty or all blanks. -/
def isBlankText (s : String) : Bool :=
  s.toList.all isBlank

/-- The maximal runs of characters that are not blank, in order. -/
def wordChars (cs : List Char) : List (List Char) :=
  (cs.splitBy fun a b => isBlank a == isBlank b).filter fun run => !run.all isBlank

/-- The words of a text, each two of them parted by one space. -/
def unifyBlanks (s : String) : String :=
  " ".intercalate ((wordChars s.toList).map String.ofList)

/-- A text with its ASCII letters in lower case. -/
def lower (s : String) : String :=
  String.ofList (s.toList.map Char.toLower)

/-- Equality up to the case of ASCII letters. -/
def sameLetters (s t : String) : Bool :=
  lower s == lower t

example : (blankRuns.map fun run => run.2 + 1 - run.1).sum = 25 := by decide

example : ∀ c : Char, c.isWhitespace → isBlank c := by
  intro c h
  simp only [Char.isWhitespace, Bool.or_eq_true, decide_eq_true_eq] at h
  rcases h with ((rfl | rfl) | rfl) | rfl <;> decide

end StarPlan.Text
