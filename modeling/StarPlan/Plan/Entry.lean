import StarPlan.Request.Basic
import StarPlan.Schema.Basic

/-!
# What one fact table contributes

An entry is the growing record of how one fact table answers a request: the columns it hands
out, the aggregates it computes, and what it needs from each dimension it joins. An entry only
ever grows at the end of its lists, and `remaining` only shrinks.

`remaining` starts as the plain columns of the table; a select item takes away the column it
uses. What is left at the end are the columns by which the table is finer than the request.
-/

namespace StarPlan

/-- A column of the fact table handed out as it is. -/
structure PlainSelect where
  column : String
  field : Alias
  /-- The requested calculation, when the column already holds its results. -/
  ready : Option Calculation
deriving DecidableEq, Repr

/-- The name of the output column. -/
def PlainSelect.outputAlias (s : PlainSelect) : String :=
  match s.ready with
  | some calculation => s.field.withCalculation calculation
  | none => s.field

/-- An aggregate over a column, reported under a requested field. What is computed is always the
calculation that was asked for, so one stands for both; and whether the column is one of the fact
table or of a joined dimension is seen from where the aggregate is listed. -/
structure Aggregation where
  column : String
  calculation : Calculation
  field : Alias
deriving DecidableEq, Repr

/-- The name of the output column. -/
def Aggregation.outputAlias (a : Aggregation) : String :=
  a.field.withCalculation a.calculation

/-- The two key columns by which a fact table joins a dimension. -/
structure JoinKeys where
  fact : String
  dimension : String
deriving DecidableEq, Repr

/-- A column of a joined dimension handed out as it is. -/
structure JoinedField where
  column : String
  field : Alias
deriving DecidableEq, Repr

/-- A comparison with a literal. -/
structure Condition where
  op : Comparison
  text : String
deriving DecidableEq, Repr

/-- A comparison of a joined dimension's column with a literal. -/
structure JoinedCondition where
  column : String
  condition : Condition
deriving DecidableEq, Repr

/-- What one purpose of a plan needs from one dimension. -/
structure JoinGroup (α : Type) where
  keys : JoinKeys
  items : List α
deriving DecidableEq, Repr

/-- Groups with one more item for a dimension; the keys of a group that is there stay. -/
def Keyed.addToGroup {α : Type} (groups : Keyed (JoinGroup α)) (table : TableName)
    (keys : JoinKeys) (item : α) : Keyed (JoinGroup α) :=
  groups.alter table fun
    | some group => { group with items := group.items ++ [item] }
    | none => ⟨keys, [item]⟩

/-- The record of how a fact table answers a request. -/
structure Entry where
  selects : List PlainSelect
  aggregations : List Aggregation
  joinSelects : Keyed (JoinGroup JoinedField)
  joinAggregations : Keyed (JoinGroup Aggregation)
  joinFilters : Keyed (JoinGroup JoinedCondition)
  /-- Conditions on columns of the fact table, by column. -/
  ownFilters : Keyed (List Condition)
  /-- The plain aliases that no select item has used. -/
  remaining : Names
deriving DecidableEq

namespace Entry

/-- The empty record of a table, from which no column has been used. -/
def start (t : FactTable) : Entry where
  selects := []
  aggregations := []
  joinSelects := .empty
  joinAggregations := .empty
  joinFilters := .empty
  ownFilters := .empty
  remaining := .ofList t.plainAliases

/-- Marks a plain alias as used. -/
def consume (e : Entry) (field : Alias) : Entry :=
  { e with remaining := e.remaining.erase field }

/-- Hands out a column of the fact table. -/
def addSelect (e : Entry) (s : PlainSelect) : Entry :=
  { e with selects := e.selects ++ [s] }

/-- Aggregates a column of the fact table. -/
def addAggregation (e : Entry) (a : Aggregation) : Entry :=
  { e with aggregations := e.aggregations ++ [a] }

/-- Adds a condition on a column of the fact table. -/
def addFilter (e : Entry) (column : String) (c : Condition) : Entry :=
  { e with ownFilters := e.ownFilters.alter column fun cs => cs.getD [] ++ [c] }

/-- Hands out a column of a joined dimension. -/
def addJoinSelect (e : Entry) (table : TableName) (keys : JoinKeys) (f : JoinedField) : Entry :=
  { e with joinSelects := e.joinSelects.addToGroup table keys f }

/-- Aggregates a column of a joined dimension. -/
def addJoinAggregation (e : Entry) (table : TableName) (keys : JoinKeys) (a : Aggregation) :
    Entry :=
  { e with joinAggregations := e.joinAggregations.addToGroup table keys a }

/-- Adds a condition on a column of a joined dimension. -/
def addJoinFilter (e : Entry) (table : TableName) (keys : JoinKeys) (c : JoinedCondition) :
    Entry :=
  { e with joinFilters := e.joinFilters.addToGroup table keys c }

/-- How many plain columns no select item has used. -/
def unresolvedCount (e : Entry) : Nat :=
  e.remaining.size

/-- Whether the rows of the table are the rows asked for. A joined attribute may be coarser
than the key it is joined by, so with one of those the rows still need grouping. -/
def isAtGrain (e : Entry) : Bool :=
  e.remaining.isEmpty && e.joinSelects.isEmpty

/-- Whether anything is aggregated. -/
def hasAggregation (e : Entry) : Bool :=
  !e.aggregations.isEmpty || e.joinAggregations.values.any fun g => !g.items.isEmpty

/-- The dimensions joined for any purpose, each once. -/
def joinTables (e : Entry) : Keyed JoinKeys :=
  let of {α : Type} (groups : Keyed (JoinGroup α)) : List (TableName × JoinKeys) :=
    groups.entries.map fun g => (g.1, g.2.keys)
  (of e.joinSelects ++ of e.joinAggregations ++ of e.joinFilters).foldl
    (fun m g => m.insertNew g.1 g.2) .empty

end Entry

end StarPlan
