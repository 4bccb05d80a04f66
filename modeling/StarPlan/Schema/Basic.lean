import StarPlan.Keyed
import StarPlan.Schema.Dimension
import StarPlan.Schema.Fact

/-!
# Schemas

A schema is the set of fact and dimension tables that the planner knows, each under its name.
It grows one finished table at a time. A table is refused when its name is taken, when it is a
second base table, when it is a dimension without a key, or when a dimension would expose an
alias that another one exposes; so an alias leads to at most one dimension.
-/

namespace StarPlan

/-- The fact and dimension tables of one star. -/
structure Schema where
  facts : Keyed FactTable
  dimensions : Keyed DimensionTable
deriving DecidableEq

/-- A dimension table found by an alias that it exposes. -/
structure DimensionLookup where
  table : DimensionTable
  field : DimensionField
  serviceKey : DimensionField
deriving DecidableEq, Repr

/-- What a table offers under an alias, provided that it can be joined. -/
def DimensionTable.lookup? (t : DimensionTable) (name : Alias) : Option DimensionLookup := do
  let field ← t.field? name
  let serviceKey ← t.serviceKey?
  return ⟨t, field, serviceKey⟩

namespace Schema

/-- A schema without tables. -/
def empty : Schema := ⟨.empty, .empty⟩

/-- The base table, the first in name order. -/
def base? (s : Schema) : Option FactTable :=
  s.facts.values.find? (·.isBase)

/-- The first dimension, in name order, that exposes an alias and has a key to join by. -/
def lookupDimension (s : Schema) (name : Alias) : Option DimensionLookup :=
  s.dimensions.values.findSome? fun t => t.lookup? name

/-- Whether a fact table exposes an alias with exactly this calculation. -/
def fieldPresent (s : Schema) (name : Alias) (table : TableName)
    (calculation : Option Calculation) : Bool :=
  (s.facts.get? table).any fun t => t.hasField name calculation

/-- Whether a table of either kind has the name. -/
def isTaken (s : Schema) (name : TableName) : Bool :=
  s.facts.contains name || s.dimensions.contains name

/-- The first reason to refuse a fact table. -/
def factFault? (s : Schema) (t : FactTable) : Option SchemaFault :=
  if s.isTaken t.name then some (.repeatedTable t.name)
  else if t.isBase then s.base?.map fun existing => .secondBase existing.name t.name
  else none

/-- The first field of a dimension table whose alias is exposed already. -/
def exposedFault? (s : Schema) (t : DimensionTable) : Option SchemaFault :=
  t.fields.findSome? fun f =>
    (s.lookupDimension f.name).map fun owner => .exposedTwice f.name t.name owner.table.name

/-- The first reason to refuse a dimension table. -/
def dimensionFault? (s : Schema) (t : DimensionTable) : Option SchemaFault :=
  if s.isTaken t.name then some (.repeatedTable t.name)
  else if t.serviceKey?.isNone then some (.keyless t.name)
  else s.exposedFault? t

/-- Adds a finished fact table, if it can be added. -/
def offerFact (s : Schema) (t : FactTable) : Offer Schema :=
  match s.factFault? t with
  | some fault => ⟨some fault, s⟩
  | none => ⟨none, { s with facts := s.facts.insert t.name t }⟩

/-- Adds a finished dimension table, if it can be added. -/
def offerDimension (s : Schema) (t : DimensionTable) : Offer Schema :=
  match s.dimensionFault? t with
  | some fault => ⟨some fault, s⟩
  | none => ⟨none, { s with dimensions := s.dimensions.insert t.name t }⟩

/-- The schema with one more fact table, unless it is refused. -/
def addFact (s : Schema) (t : FactTable) : Except SchemaFault Schema :=
  (s.offerFact t).toExcept

/-- The schema with one more dimension table, unless it is refused. -/
def addDimension (s : Schema) (t : DimensionTable) : Except SchemaFault Schema :=
  (s.offerDimension t).toExcept

theorem addFact_eq_ok_iff {s s' : Schema} {t : FactTable} :
    s.addFact t = .ok s' ↔
      s.factFault? t = none ∧ s' = { s with facts := s.facts.insert t.name t } := by
  rw [addFact, Offer.toExcept_eq_ok_iff, offerFact]
  cases s.factFault? t <;> simp

theorem addDimension_eq_ok_iff {s s' : Schema} {t : DimensionTable} :
    s.addDimension t = .ok s' ↔
      s.dimensionFault? t = none ∧
        s' = { s with dimensions := s.dimensions.insert t.name t } := by
  rw [addDimension, Offer.toExcept_eq_ok_iff, offerDimension]
  cases s.dimensionFault? t <;> simp

/-- A table that is refused changes nothing, be it a fact table -/
theorem left_of_refused_fact {s : Schema} {t : FactTable} :
    (s.offerFact t).fault? ≠ none → (s.offerFact t).left = s := by
  rw [offerFact]
  cases s.factFault? t with
  | some fault => exact fun _ => rfl
  | none => exact fun refused => absurd rfl refused

/-- or a dimension. -/
theorem left_of_refused_dimension {s : Schema} {t : DimensionTable} :
    (s.offerDimension t).fault? ≠ none → (s.offerDimension t).left = s := by
  rw [offerDimension]
  cases s.dimensionFault? t with
  | some fault => exact fun _ => rfl
  | none => exact fun refused => absurd rfl refused

end Schema

end StarPlan
