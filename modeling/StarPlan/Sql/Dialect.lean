import StarPlan.Calculation

/-!
# SQL dialects

A dialect writes the smallest parts of a query: a quoted output alias, a table, a column and
an aggregate. How queries are put together from these parts is the same for all.

The PostgreSQL dialect puts an alias between double quotes and writes a double quote inside it
twice; tables and columns are written as they are.
-/

namespace StarPlan.Sql

/-- How names and aggregates are written. -/
structure Dialect where
  quote : String → String
  table : String → String
  column : String → String → String
  aggregate : Calculation → String → String

/-- An aggregate in standard SQL. -/
def standardAggregate : Calculation → String → String
  | .sum, operand => s!"SUM({operand})"
  | .count, operand => s!"COUNT({operand})"
  | .countDistinct, operand => s!"COUNT(DISTINCT {operand})"
  | .min, operand => s!"MIN({operand})"
  | .max, operand => s!"MAX({operand})"
  | .avg, operand => s!"AVG({operand})"

/-- Characters in which every double quote stands twice. -/
def doubleQuotes : List Char → List Char
  | [] => []
  | c :: rest => if c = '"' then '"' :: '"' :: doubleQuotes rest else c :: doubleQuotes rest

/-- An identifier between double quotes, with the quotes inside it doubled. -/
def quoteIdent (ident : String) : String :=
  String.ofList ('"' :: (doubleQuotes ident.toList ++ ['"']))

/-- The dialect that writes aliases as given by a function and all else as standard SQL. -/
def Dialect.standard (quote : String → String) : Dialect where
  quote := quote
  table := id
  column := fun table name => s!"{table}.{name}"
  aggregate := standardAggregate

/-- The dialect of PostgreSQL. -/
def postgres : Dialect := .standard quoteIdent

@[simp] theorem doubleQuotes_nil : doubleQuotes [] = [] := rfl

end StarPlan.Sql
