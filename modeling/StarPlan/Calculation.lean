import StarPlan.Text.Blank

/-!
# Calculations

The six aggregate functions that a request can ask for and that a stored column can hold.
Their names are read leniently: blanks around a name do not count, nor does letter case, and
inside a name a space or a hyphen stands for an underscore.

A slot of a table file that may hold a calculation also admits the word `none`.
-/

namespace StarPlan

/-- An aggregate function. -/
inductive Calculation where
  | sum
  | count
  | countDistinct
  | min
  | max
  | avg
deriving DecidableEq, Repr

namespace Calculation

/-- Every calculation, in the order in which they are listed to users. -/
def all : List Calculation := [sum, count, countDistinct, min, max, avg]

theorem mem_all (c : Calculation) : c ∈ all := by
  cases c <;> decide

/-- The name under which a calculation is written and read. -/
def name : Calculation → String
  | sum => "sum"
  | count => "count"
  | countDistinct => "count_distinct"
  | min => "min"
  | max => "max"
  | avg => "avg"

/-- No name is the end of another one, although one begins with another one. -/
theorem eq_of_name_suffix {c d : Calculation} (ends : c.name.toList <:+ d.name.toList) : c = d := by
  revert ends
  cases c <;> cases d <;> decide

/-- Whether a calculation counts rows or values, so that a key can be counted instead. -/
def isCount : Calculation → Bool
  | count | countDistinct => true
  | _ => false

/-- A space or a hyphen inside a name is an underscore. -/
def joinParts (cs : List Char) : List Char :=
  cs.map fun c => if c = ' ' ∨ c = '-' then '_' else c

/-- Reads the name of a calculation. -/
def ofText? (text : String) : Option Calculation :=
  let wanted := String.ofList (joinParts (Text.lower (Text.trim text)).toList)
  all.find? fun c => c.name == wanted

/-- Whether a slot is left open: it is blank, or holds the word `none`. -/
def isOpenSlot (text : String) : Bool :=
  Text.isBlankText text || Text.sameLetters (Text.trim text) "none"

end Calculation

end StarPlan
