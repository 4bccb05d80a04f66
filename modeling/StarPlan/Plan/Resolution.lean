import StarPlan.Plan.Event
import StarPlan.Plan.Source

/-!
# Answering aggregate items

Each aggregate item is put to three strategies in turn, up to the first that resolves it. A
strategy works on the entry itself and hands it on in either case, so that each is tried on the
entry that those before it have left.

A column that stores results of a calculation is handed out as it is when the table is at the
requested grain and the calculation is the requested one. Otherwise it may be aggregated only
by the calculation that its table declares to follow.
-/

namespace StarPlan

/-- What the planner may do. -/
structure Options where
  /-- Whether counting an attribute may be answered by counting its dimension's key. -/
  substituteKeys : Bool
deriving DecidableEq, Repr

/-- The default: keys may be counted instead. -/
def Options.standard : Options := ⟨true⟩

/-- Whether a strategy has answered an item. -/
inductive Resolution where
  | resolved
  | notApplicable
deriving DecidableEq, Repr

/-- What comes of putting an item to a strategy: whether it applies, the entry that it leaves
and what it reports. -/
structure Attempt where
  resolution : Resolution
  entry : Entry
  report : List Event
deriving DecidableEq

/-- What comes of putting an item to strategies in turn: the one that resolves it, if there is
one, and the entry and the reports of all that were tried. -/
structure Search where
  strategy : Option Strategy
  entry : Entry
  report : List Event
deriving DecidableEq

/-- An aggregate item together with what its alias means in a schema. -/
structure AggregateContext where
  item : AggregateItem
  dimension : Option DimensionLookup
  /-- The same dimension, when its key may be counted instead. -/
  substitution : Option DimensionLookup
deriving DecidableEq, Repr

/-- Whether counting the key of a dimension may answer a calculation over its field. -/
def DimensionLookup.allowsSubstitution (d : DimensionLookup) (options : Options)
    (calculation : Calculation) : Bool :=
  options.substituteKeys && d.field.countsByKey && calculation.isCount

/-- What an aggregate item means in a schema. -/
def AggregateContext.of (schema : Schema) (item : AggregateItem) (options : Options) :
    AggregateContext :=
  let dimension := schema.lookupDimension item.field
  ⟨item, dimension, dimension.filter (·.allowsSubstitution options item.calculation)⟩

/-- Answers an item over the fact column with the alias `lookup`. -/
def FactTable.resolveDirect (t : FactTable) (e : Entry) (lookup : Alias) (item : AggregateItem) :
    Attempt :=
  match t.field? lookup with
  | none => ⟨.notApplicable, e, []⟩
  | some f =>
    match f.calculation with
    | none => ⟨.resolved, e.addAggregation ⟨f.column, item.calculation, item.field⟩, []⟩
    | some baked =>
      if baked = item.calculation ∧ e.isAtGrain then
        ⟨.resolved, e.addSelect ⟨f.column, item.field, some item.calculation⟩, []⟩
      else if f.following = some item.calculation then
        ⟨.resolved, e.addAggregation ⟨f.column, item.calculation, item.field⟩, []⟩
      else
        ⟨.notApplicable, e, [.notReaggregable t.name lookup baked item.calculation]⟩

/-- Puts an item to a strategy. -/
def Strategy.resolve (context : AggregateContext) (t : FactTable) (e : Entry) :
    Strategy → Attempt
  | serviceKeySubstitution =>
    match context.substitution with
    | some d => t.resolveDirect e d.serviceKey.name context.item
    | none => ⟨.notApplicable, e, []⟩
  | directField => t.resolveDirect e context.item.field context.item
  | joinAggregation =>
    match context.dimension with
    | none => ⟨.notApplicable, e, []⟩
    | some d =>
      match t.joinKeys? d with
      | none => ⟨.notApplicable, e, []⟩
      | some keys =>
        ⟨.resolved, e.addJoinAggregation d.table.name keys
          ⟨d.field.column, context.item.calculation, context.item.field⟩, []⟩

/-- Puts an item to strategies in turn, each on the entry that the one before it has left, up to
the first that applies. -/
def Strategy.firstOf (context : AggregateContext) (t : FactTable) : List Strategy → Entry → Search
  | [], e => ⟨none, e, []⟩
  | strategy :: rest, e =>
    let attempt := strategy.resolve context t e
    match attempt.resolution with
    | .resolved => ⟨some strategy, attempt.entry, attempt.report⟩
    | .notApplicable =>
      let later := firstOf context t rest attempt.entry
      ⟨later.strategy, later.entry, attempt.report ++ later.report⟩

end StarPlan
