import StarPlan.Plan.Resolution

/-!
# Planning a request

Every fact table starts live with an empty entry. Each item of the request visits each fact
table in name order: a live table that can serve the item has its entry extended, one that
cannot is evicted for good, and an evicted one is passed by. Select items come first, then
filter items, then aggregate items.

The state after any number of visits is a `Plan`, so that statements about the course of the
planning need no notion beyond it.
-/

namespace StarPlan

/-- The live tables with their entries, the evicted tables, and what was reported so far. -/
structure Plan where
  live : Keyed Entry
  evicted : Names
  log : List Event
deriving DecidableEq

/-- One item of a request. -/
inductive RequestItem where
  | select (field : Alias)
  | filter (item : FilterItem)
  | aggregate (item : AggregateItem)
deriving DecidableEq, Repr

namespace RequestItem

/-- The alias that an item is about. -/
def field : RequestItem → Alias
  | select field => field
  | filter item => item.field
  | aggregate item => item.field

/-- The reason to evict a table that cannot serve an item. -/
def reason : RequestItem → EvictionReason
  | select _ => .select
  | filter _ => .filter
  | aggregate _ => .aggregate

/-- The entry of a table extended by an item, if the table can serve it, and what is reported
on the way. -/
def serve (schema : Schema) (options : Options) (t : FactTable) (e : Entry) :
    RequestItem → Option Entry × List Event
  | select field =>
    ((t.source? field (schema.lookupDimension field)).map (e.select field), [])
  | filter item =>
    ((t.source? item.field (schema.lookupDimension item.field)).map (e.filter item), [])
  | aggregate item =>
    let search := Strategy.firstOf (.of schema item options) t Strategy.order e
    match search.strategy with
    | some strategy =>
      (some search.entry, search.report ++ [.resolved t.name item.field strategy])
    | none => (none, search.report)

end RequestItem

namespace Plan

/-- Every fact table live, with an empty entry. -/
def start (schema : Schema) : Plan :=
  ⟨schema.facts.mapValues Entry.start, .empty, []⟩

/-- Adds to the log. -/
def report (p : Plan) (events : List Event) : Plan :=
  { p with log := p.log ++ events }

/-- Gives a live table up. -/
def evict (p : Plan) (table : TableName) : Plan :=
  { p with live := p.live.erase table, evicted := p.evicted.add table }

/-- What an item does to one fact table. -/
def visit (schema : Schema) (options : Options) (item : RequestItem) (p : Plan)
    (t : FactTable) : Plan :=
  match p.live.get? t.name with
  | none => p
  | some e =>
    match item.serve schema options t e with
    | (some e', events) => { p with live := p.live.insert t.name e' }.report events
    | (none, events) =>
      (p.evict t.name).report (events ++ [.evicting t.name item.field item.reason])

/-- What an item does to all fact tables. -/
def apply (schema : Schema) (options : Options) (p : Plan) (item : RequestItem) : Plan :=
  schema.facts.values.foldl (visit schema options item) p

/-- What a list of items does to all fact tables. -/
def applyAll (schema : Schema) (options : Options) (items : List RequestItem) (p : Plan) :
    Plan :=
  items.foldl (apply schema options) p

end Plan

namespace Request

/-- The items that select, in order. -/
def selectItems (r : Request) : List RequestItem := r.select.map .select

/-- The items that filter, in order. -/
def filterItems (r : Request) : List RequestItem := r.filter.map .filter

/-- The items that aggregate, in order. -/
def aggregateItems (r : Request) : List RequestItem := r.aggregate.map .aggregate

end Request

/-- Plans a request. That no table is left is a valid outcome. -/
def Schema.plan (schema : Schema) (request : Request) (options : Options) : Plan :=
  let start := Plan.start schema
  let opened := start.report
    [.planning start.live.size request.select.length request.filter.length
      request.aggregate.length]
  let selected := opened.applyAll schema options request.selectItems
  let selected := selected.report [.selectsDone selected.live.size]
  let filtered := selected.applyAll schema options request.filterItems
  let filtered := filtered.report [.filtersDone filtered.live.size]
  let done := filtered.applyAll schema options request.aggregateItems
  done.report [.aggregatesDone done.live.size done.evicted.size]

end StarPlan
