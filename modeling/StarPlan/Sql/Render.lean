import StarPlan.Sql.Dialect
import StarPlan.Sql.Query

/-!
# The text of a query

One layout for every query: each clause on a line of its own, the items of a list on lines
that start with a tab, and a comma before every item but the first. WHERE and GROUP BY are
left out when they have nothing to hold.
-/

namespace StarPlan.Sql

/-- The text of an expression; operands are never put in brackets. -/
def Expr.render (d : Dialect) : Expr → String
  | .column (some table) name => d.column table name
  | .column none name => name
  | .raw text => text
  | .aggregate calculation operand => d.aggregate calculation (operand.render d)
  | .binary op left right => left.render d ++ " " ++ op.sql ++ " " ++ right.render d

/-- An output column with its alias. -/
def SelectItem.render (d : Dialect) (item : SelectItem) : String :=
  match item.outputName with
  | some name => item.expr.render d ++ " AS " ++ d.quote name
  | none => item.expr.render d

/-- Expressions that must all hold. -/
def renderAll (d : Dialect) (exprs : List Expr) : String :=
  " AND ".intercalate (exprs.map (Expr.render d))

/-- A join with its conditions. -/
def Join.render (d : Dialect) (join : Join) : String :=
  "\nINNER JOIN " ++ d.table join.table ++ "\n\tON " ++ renderAll d join.on

/-- The items of a list, one to a line. -/
def renderItems (items : List String) : String :=
  "\n\t " ++ "\n\t,".intercalate items

/-- The WHERE clause, if there are filters. -/
def renderFilters (d : Dialect) : List Expr → String
  | [] => ""
  | filters => "\nWHERE " ++ renderAll d filters

/-- The GROUP BY clause, if anything is grouped. -/
def renderGroups (d : Dialect) : List Expr → String
  | [] => ""
  | groups => "\nGROUP BY" ++ renderItems (groups.map (Expr.render d))

/-- The text of a query. -/
def Query.render (d : Dialect) (q : Query) : String :=
  "SELECT" ++ renderItems (q.select.map (SelectItem.render d)) ++
    "\nFROM " ++ d.table q.source ++
    String.join (q.joins.map (Join.render d)) ++
    renderFilters d q.filters ++
    renderGroups d q.groupBy

end StarPlan.Sql
