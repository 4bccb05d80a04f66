import StarPlan.Plan.Basic

/-!
# What the strategies add to an entry

A strategy that answers an aggregate item takes up one record in the entry: a column of stored
results, an aggregate of a column, or an aggregate in the group of a dimension. Which record that
is, if any, is a function of the table, the item and the grain alone: `FactTable.direct?` and
`Strategy.record?`.

The attempts of the planner come to just that (`FactTable.resolveDirect_takesUp`,
`Strategy.resolve_takesUp`): in each case of a strategy either the item is resolved and the entry
is the old one with one record taken up, or the entry is the old one. So strategies that are tried
in turn all see the same entry, and the first with a record is the one that is found
(`Strategy.firstOf_takesUp`).
-/

namespace StarPlan

/-- What answers an aggregate item: stored results as they are, an aggregate of a column of the
table, or one of a column of a dimension. -/
inductive AggregateRecord where
  | ready (select : PlainSelect)
  | inPlace (aggregation : Aggregation)
  | joined (table : TableName) (keys : JoinKeys) (aggregation : Aggregation)
deriving DecidableEq, Repr

/-- Takes up the answer to an aggregate item. -/
def Entry.record (e : Entry) : AggregateRecord → Entry
  | .ready s => e.addSelect s
  | .inPlace a => e.addAggregation a
  | .joined table keys a => e.addJoinAggregation table keys a

/-- The record that answers an item by the column with the alias `lookup`. -/
def FactTable.direct? (t : FactTable) (e : Entry) (lookup : Alias) (item : AggregateItem) :
    Option AggregateRecord :=
  (t.field? lookup).bind fun f =>
    match f.calculation with
    | none => some (.inPlace ⟨f.column, item.calculation, item.field⟩)
    | some baked =>
      if baked = item.calculation ∧ e.isAtGrain then
        some (.ready ⟨f.column, item.field, some item.calculation⟩)
      else if f.following = some item.calculation then
        some (.inPlace ⟨f.column, item.calculation, item.field⟩)
      else none

/-- The record by which a strategy answers an item. -/
def Strategy.record? (context : AggregateContext) (t : FactTable) (e : Entry) :
    Strategy → Option AggregateRecord
  | serviceKeySubstitution =>
    context.substitution.bind fun d => t.direct? e d.serviceKey.name context.item
  | directField => t.direct? e context.item.field context.item
  | joinAggregation =>
    context.dimension.bind fun d => (t.joinKeys? d).map fun keys =>
      .joined d.table.name keys ⟨d.field.column, context.item.calculation, context.item.field⟩

/-- A strategy was refused because stored results of a table cannot be aggregated again. -/
def Event.IsRefusal (table : TableName) (event : Event) : Prop :=
  ∃ lookup baked requested, event = notReaggregable table lookup baked requested

/-- An attempt to answer an item by an entry of a table takes up a record, or there is none: then
it leaves the entry as it is, and at most reports what stood in its way. -/
inductive Attempt.TakesUp (table : TableName) (e : Entry) :
    Attempt → Option AggregateRecord → Prop
  | resolved (record : AggregateRecord) :
    TakesUp table e ⟨.resolved, e.record record, []⟩ (some record)
  | refused (report : List Event) (told : ∀ event ∈ report, event.IsRefusal table) :
    TakesUp table e ⟨.notApplicable, e, report⟩ none

theorem Attempt.TakesUp.resolution_eq {table : TableName} {e : Entry} {attempt : Attempt}
    {found : Option AggregateRecord} (taken : attempt.TakesUp table e found) :
    attempt.resolution = if found.isSome then .resolved else .notApplicable := by
  cases taken <;> rfl

/-- A search on an entry finds a strategy and takes up its record, or there is none and it leaves
the entry as it is. On the way it reports refusals at most. -/
structure Search.TakesUp (table : TableName) (e : Entry) (search : Search)
    (found : Option (Strategy × AggregateRecord)) : Prop where
  strategy : search.strategy = found.map (·.1)
  entry : search.entry = (found.map fun p => e.record p.2).getD e
  report : ∀ event ∈ search.report, event.IsRefusal table

theorem FactTable.resolveDirect_takesUp (t : FactTable) (e : Entry) (lookup : Alias)
    (item : AggregateItem) :
    (t.resolveDirect e lookup item).TakesUp t.name e (t.direct? e lookup item) := by
  unfold resolveDirect direct?
  cases t.field? lookup with
  | none => exact .refused [] (List.forall_mem_nil _)
  | some f =>
      dsimp only [Option.bind_some]
      cases f.calculation with
      | none => exact .resolved (.inPlace _)
      | some baked =>
          dsimp only
          split
          · exact .resolved (.ready _)
          · split
            · exact .resolved (.inPlace _)
            · exact .refused _ (List.forall_mem_singleton.2 ⟨_, _, _, rfl⟩)

namespace Strategy

variable (context : AggregateContext) (t : FactTable) (e : Entry) (strategies : List Strategy)

theorem resolve_takesUp (strategy : Strategy) :
    (strategy.resolve context t e).TakesUp t.name e (strategy.record? context t e) := by
  cases strategy with
  | serviceKeySubstitution =>
      rw [resolve, record?]
      cases context.substitution with
      | none => exact .refused [] (List.forall_mem_nil _)
      | some d => exact t.resolveDirect_takesUp e d.serviceKey.name context.item
  | directField => exact t.resolveDirect_takesUp e context.item.field context.item
  | joinAggregation =>
      rw [resolve, record?]
      cases context.dimension with
      | none => exact .refused [] (List.forall_mem_nil _)
      | some d =>
          dsimp only [Option.bind_some]
          cases t.joinKeys? d with
          | none => exact .refused [] (List.forall_mem_nil _)
          | some keys => exact .resolved (.joined d.table.name keys _)

/-- The first strategy that has a record, with its record. -/
def first? : Option (Strategy × AggregateRecord) :=
  strategies.findSome? fun strategy => (strategy.record? context t e).map (strategy, ·)

theorem firstOf_takesUp :
    (firstOf context t strategies e).TakesUp t.name e (first? context t e strategies) := by
  induction strategies with
  | nil => exact ⟨rfl, rfl, List.forall_mem_nil _⟩
  | cons strategy rest ih =>
      rw [firstOf, first?, List.findSome?_cons]
      have taken := strategy.resolve_takesUp context t e
      generalize strategy.resolve context t e = attempt, strategy.record? context t e = found
        at taken ⊢
      cases taken with
      | resolved record => exact ⟨rfl, rfl, List.forall_mem_nil _⟩
      | refused report told =>
          -- The next strategy is tried on the entry that this one was tried on.
          exact ⟨ih.strategy, ih.entry, List.forall_mem_append.2 ⟨told, ih.report⟩⟩

variable {context t e strategies}
variable {strategy : Strategy} {record : AggregateRecord}

theorem record?_of_first? (first : first? context t e strategies = some (strategy, record)) :
    strategy.record? context t e = some record := by
  obtain ⟨candidate, -, found⟩ := List.exists_of_findSome?_eq_some first
  obtain ⟨record', answers, same⟩ := Option.map_eq_some_iff.1 found
  obtain ⟨rfl, rfl⟩ := Prod.mk.inj same
  exact answers

theorem first?_eq_some_iff :
    first? context t e strategies = some (strategy, record) ↔
      (firstOf context t strategies e).strategy = some strategy ∧
        strategy.record? context t e = some record := by
  rw [(firstOf_takesUp context t e strategies).strategy, Option.map_eq_some_iff]
  constructor
  · intro first
    exact ⟨⟨(strategy, record), first, rfl⟩, record?_of_first? first⟩
  · rintro ⟨⟨⟨_, record'⟩, first, rfl⟩, answers⟩
    obtain rfl := Option.some.inj ((record?_of_first? first).symm.trans answers)
    exact first

end Strategy

/-- An entry goes on with what the search has left, if it has found a strategy. -/
theorem RequestItem.serve_aggregate_eq_some_iff {s : Schema} {o : Options} {t : FactTable}
    {e e' : Entry} {item : AggregateItem} :
    ((RequestItem.aggregate item).serve s o t e).1 = some e' ↔
      ∃ strategy, (Strategy.firstOf (.of s item o) t Strategy.order e).strategy = some strategy ∧
        e' = (Strategy.firstOf (.of s item o) t Strategy.order e).entry := by
  rw [serve]
  rcases Strategy.firstOf (.of s item o) t Strategy.order e with ⟨_ | strategy, left, report⟩
  · exact iff_of_false nofun nofun
  · exact ⟨fun served => ⟨strategy, rfl, (Option.some.inj served).symm⟩,
      fun ⟨_, _, same⟩ => congrArg some same.symm⟩

end StarPlan
