import StarPlan.Name

/-!
# The decision log

What the planner reports while it works: how large the task is, how each aggregate was
resolved, why a table was given up, and how many tables are left after each pass.
-/

namespace StarPlan

/-- The ways to answer an aggregate item, in the order in which they are tried. -/
inductive Strategy where
  /-- Count the dimension's key, which the fact table carries, instead of joining. -/
  | serviceKeySubstitution
  /-- Aggregate a column of the fact table, or reuse a stored aggregate. -/
  | directField
  /-- Join the dimension that exposes the field and aggregate its column. -/
  | joinAggregation
deriving DecidableEq, Repr

namespace Strategy

/-- Every strategy, the first to be tried first. -/
def order : List Strategy := [serviceKeySubstitution, directField, joinAggregation]

/-- The name of a strategy in the log. -/
def name : Strategy → String
  | serviceKeySubstitution => "ServiceKeySubstitution"
  | directField => "DirectField"
  | joinAggregation => "JoinAggregation"

end Strategy

/-- Why a fact table cannot answer a request. -/
inductive EvictionReason where
  | select
  | filter
  | aggregate
deriving DecidableEq, Repr

/-- The wording of a reason. -/
def EvictionReason.message : EvictionReason → String
  | select => "select field is neither native nor joinable"
  | filter => "filter field is neither native nor joinable"
  | aggregate => "no aggregation strategy applies"

/-- One report of the planner. -/
inductive Event where
  | planning (tables select filter aggregate : Nat)
  | selectsDone (surviving : Nat)
  | filtersDone (surviving : Nat)
  | aggregatesDone (surviving evicted : Nat)
  | evicting (table : TableName) (field : Alias) (reason : EvictionReason)
  | resolved (table : TableName) (field : Alias) (strategy : Strategy)
  | notReaggregable (table : TableName) (field : Alias) (baked requested : Calculation)
deriving DecidableEq, Repr

namespace Event

/-- The text of a report. -/
def message : Event → String
  | planning .. => "planning request"
  | selectsDone .. => "select pass done"
  | filtersDone .. => "filter pass done"
  | aggregatesDone .. => "aggregate pass done"
  | evicting .. => "evicting candidate table"
  | resolved .. => "aggregate resolved"
  | notReaggregable .. => "precomputed field cannot be re-aggregated"

end Event

end StarPlan
