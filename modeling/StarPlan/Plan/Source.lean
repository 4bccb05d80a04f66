import StarPlan.Plan.Entry

/-!
# Where a plain field comes from

A select or filter item is served by a plain column of the fact table itself, or else by the
dimension that exposes the alias, joined over a plain column of the fact table that carries
the dimension's key. The fact table's own column wins.
-/

namespace StarPlan

/-- How a fact table provides a field that is not aggregated. -/
inductive FieldSource where
  | native (field : FactField)
  | joined (dimension : DimensionLookup) (keys : JoinKeys)
deriving DecidableEq, Repr

/-- The keys by which a fact table joins a dimension, if it carries the dimension's key. -/
def FactTable.joinKeys? (t : FactTable) (d : DimensionLookup) : Option JoinKeys :=
  (t.plainField? d.serviceKey.name).map fun key => ⟨key.column, d.serviceKey.column⟩

/-- How a fact table provides a field, given the dimension that exposes it. -/
def FactTable.source? (t : FactTable) (field : Alias) (dimension : Option DimensionLookup) :
    Option FieldSource :=
  ((t.plainField? field).map .native).or <|
    dimension.bind fun d => (t.joinKeys? d).map (.joined d)

namespace Entry

/-- Selects a field from its source and marks the column that it uses. -/
def select (e : Entry) (field : Alias) : FieldSource → Entry
  | .native f => (e.addSelect ⟨f.column, field, none⟩).consume field
  | .joined d keys =>
    (e.addJoinSelect d.table.name keys ⟨d.field.column, field⟩).consume d.serviceKey.name

/-- Filters by a field from its source. -/
def filter (e : Entry) (item : FilterItem) : FieldSource → Entry
  | .native f => e.addFilter f.column ⟨item.op, item.condition⟩
  | .joined d keys =>
    e.addJoinFilter d.table.name keys ⟨d.field.column, ⟨item.op, item.condition⟩⟩

end Entry

end StarPlan
