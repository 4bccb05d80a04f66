import StarPlan.Text.Blank

/-!
# Comparisons

The operators of a filter. The operator of a filter and the operator of the WHERE clause made
from it are one and the same; `Comparison.sql` is how it is written in either place.

When an operator is read, runs of blanks count as one space and letter case does not count.
-/

namespace StarPlan

/-- A binary comparison between a column and a literal. -/
inductive Comparison where
  | eq
  | ne
  | gt
  | ge
  | lt
  | le
  | like
  | ilike
  | isIn
  | notIn
deriving DecidableEq, Repr

namespace Comparison

/-- The SQL text of a comparison. -/
def sql : Comparison → String
  | eq => "="
  | ne => "!="
  | gt => ">"
  | ge => ">="
  | lt => "<"
  | le => "<="
  | like => "LIKE"
  | ilike => "ILIKE"
  | isIn => "IN"
  | notIn => "NOT IN"

/-- Every spelling of a comparison in lower case, with what it means. -/
def spellings : List (String × Comparison) :=
  [("=", eq), ("==", eq), ("!=", ne), ("<>", ne), (">", gt), (">=", ge), ("<", lt), ("<=", le),
   ("like", like), ("ilike", ilike), ("in", isIn), ("not in", notIn)]

/-- Reads a comparison. -/
def ofText? (text : String) : Option Comparison :=
  spellings.lookup (Text.lower (Text.unifyBlanks text))

end Comparison

end StarPlan
