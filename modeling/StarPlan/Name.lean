import StarPlan.Calculation

/-!
# Names of tables and fields

A table is named `database.schema.table`; its columns are qualified by the last part alone.
A field is known to requests by its alias, and an aggregate over it by the alias, two
underscores and the name of the calculation.
-/

namespace StarPlan

/-- The full name of a table. -/
abbrev TableName := String

/-- The name by which requests know a field. -/
abbrev Alias := String

/-- The part of a table name after its last dot, which qualifies columns. -/
def TableName.shortName (name : TableName) : String :=
  String.ofList (name.toList.reverse.takeWhile (· ≠ '.')).reverse

/-- The name of the column that reports a calculation over a field. -/
def Alias.withCalculation (field : Alias) (calculation : Calculation) : String :=
  field ++ "__" ++ calculation.name

end StarPlan
