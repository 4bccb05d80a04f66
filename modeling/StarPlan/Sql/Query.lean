import StarPlan.Calculation
import StarPlan.Comparison

/-!
# SELECT queries

The shape of the queries that plans become: one FROM table, inner joins, a conjunction of
filters and a list of grouping expressions. Outer joins are never planned.
-/

namespace StarPlan.Sql

/-- A scalar expression. -/
inductive Expr where
  /-- A column, with the name that qualifies it if there is one. -/
  | column (table : Option String) (name : String)
  /-- Literal text from a request, written as it is. -/
  | raw (text : String)
  | aggregate (calculation : Calculation) (operand : Expr)
  | binary (op : Comparison) (left right : Expr)
deriving DecidableEq, Repr

namespace Expr

/-- A column of a named table. -/
def ofTable (table name : String) : Expr := column (some table) name

/-- Whether an expression is an aggregate. -/
def isAggregate : Expr → Bool
  | aggregate .. => true
  | _ => false

end Expr

/-- One output column, perhaps with a name of its own. -/
structure SelectItem where
  expr : Expr
  outputName : Option String
deriving DecidableEq, Repr

/-- An inner join; its conditions are all required. -/
structure Join where
  table : String
  on : List Expr
deriving DecidableEq, Repr

/-- A SELECT query. -/
structure Query where
  select : List SelectItem
  source : String
  joins : List Join
  filters : List Expr
  groupBy : List Expr
deriving DecidableEq, Repr

end StarPlan.Sql
