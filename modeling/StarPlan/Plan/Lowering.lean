import StarPlan.Plan.Entry
import StarPlan.Sql.Render

/-!
# The query of an entry

An entry becomes one SELECT query: first the plain columns of the fact table, then its
aggregates, then the joined columns, then the joined aggregates. When anything is aggregated,
the columns that are not are the grouping columns.
-/

namespace StarPlan

/-- A query as text, with the number of plain columns that the request left unused. -/
structure RenderedQuery where
  sql : String
  unresolved : Nat
deriving DecidableEq, Repr

open Sql

namespace Entry

/-- The items of every group, each with the short name of its dimension. -/
def groupItems {α : Type} (groups : Keyed (JoinGroup α)) : List (String × α) :=
  groups.entries.flatMap fun g => g.2.items.map fun item => (TableName.shortName g.1, item)

/-- The plain columns of the fact table. -/
def plainItems (e : Entry) (fact : String) : List SelectItem :=
  e.selects.map fun s => ⟨.ofTable fact s.column, some s.outputAlias⟩

/-- The aggregates over columns of the fact table. -/
def aggregateItems (e : Entry) (fact : String) : List SelectItem :=
  e.aggregations.map fun a =>
    ⟨.aggregate a.calculation (.ofTable fact a.column), some a.outputAlias⟩

/-- The columns of joined dimensions. -/
def joinedItems (e : Entry) : List SelectItem :=
  (groupItems e.joinSelects).map fun (table, f) => ⟨.ofTable table f.column, some f.field⟩

/-- The aggregates over columns of joined dimensions. -/
def joinedAggregateItems (e : Entry) : List SelectItem :=
  (groupItems e.joinAggregations).map fun (table, a) =>
    ⟨.aggregate a.calculation (.ofTable table a.column), some a.outputAlias⟩

/-- The joins, in the order of the dimensions' names. -/
def joins (e : Entry) (fact : String) : List Join :=
  e.joinTables.entries.map fun (table, keys) =>
    ⟨table, [.binary .eq (.ofTable fact keys.fact)
      (.ofTable (TableName.shortName table) keys.dimension)]⟩

/-- A comparison of a column with the text of a literal. -/
def comparison (table column : String) (c : Condition) : Expr :=
  .binary c.op (.ofTable table column) (.raw c.text)

/-- The filters: those of the fact table by column, then those of the dimensions by name. -/
def filters (e : Entry) (fact : String) : List Expr :=
  (e.ownFilters.entries.flatMap fun (column, cs) => cs.map (comparison fact column)) ++
    (groupItems e.joinFilters).map fun (table, c) => comparison table c.column c.condition

/-- The query of an entry over the table of a given name. -/
def toQuery (e : Entry) (table : TableName) : Query :=
  let fact := table.shortName
  let plain := e.plainItems fact
  let joined := e.joinedItems
  { select := plain ++ e.aggregateItems fact ++ joined ++ e.joinedAggregateItems
    source := table
    joins := e.joins fact
    filters := e.filters fact
    groupBy := if e.hasAggregation then (plain ++ joined).map (·.expr) else [] }

/-- The text of the query of an entry. -/
def render (e : Entry) (table : TableName) (d : Dialect) : RenderedQuery :=
  ⟨(e.toQuery table).render d, e.unresolvedCount⟩

end Entry

end StarPlan
