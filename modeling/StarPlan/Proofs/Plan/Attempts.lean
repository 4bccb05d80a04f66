import StarPlan.Proofs.Plan.Growth
import StarPlan.Proofs.Plan.Joins
import StarPlan.Proofs.Plan.Resolves

/-!
# What an attempt to answer an aggregate item leaves behind

The strategies for an aggregate item are tried one after another on one entry, each on what those
before it have left. A strategy that does not apply must therefore leave no trace: what it had
added would be part of the answer of the next one.

None does, in any of its cases, nor does the search through any list of strategies
(`Entry.AddsOneIf`). A success adds one item under the output name of what was asked, in one place
(`Entry.AddsOne`), and leaves all else alone, which is more than the grain depends on
(`Entry.Frame`). So whether a table is at the requested grain does not change from the first visit
of the aggregate pass to the last: `Schema.attempts_add_one`.
-/

namespace StarPlan

theorem Keyed.get?_addToGroup {α : Type} (groups : Keyed (JoinGroup α)) (table other : TableName)
    (keys : JoinKeys) (item : α) :
    (groups.addToGroup table keys item).get? other =
      if other = table then
        some ⟨(groups.keysOf table).getD keys, groups.itemsOf table ++ [item]⟩
      else groups.get? other := by
  rw [addToGroup, get?_alter, keysOf, itemsOf]
  cases groups.get? table <;> rfl

namespace Entry

variable {e e' e'' : Entry} {name : String}

/-- One entry is another one with one item more, of the given output name: a column of the fact
table, an aggregate of one, or an aggregate in the group of one dimension. A group that is there
keeps its keys, and the other groups stay as they are. -/
inductive AddsOne (name : String) (e : Entry) : Entry → Prop
  | select (s : PlainSelect) (named : s.outputAlias = name) :
    AddsOne name e { e with selects := e.selects ++ [s] }
  | aggregation (a : Aggregation) (named : a.outputAlias = name) :
    AddsOne name e { e with aggregations := e.aggregations ++ [a] }
  | joined (groups : Keyed (JoinGroup Aggregation)) (table : TableName) (keys : JoinKeys)
    (a : Aggregation) (named : a.outputAlias = name)
    (group : groups.get? table = some ⟨(e.joinAggregations.keysOf table).getD keys,
      e.joinAggregations.itemsOf table ++ [a]⟩)
    (others : ∀ other, other ≠ table → groups.get? other = e.joinAggregations.get? other) :
    AddsOne name e { e with joinAggregations := groups }

/-- Two entries have the same columns unused, the same columns of dimensions selected and the same
conditions. -/
structure Frame (e e' : Entry) : Prop where
  remaining : e'.remaining = e.remaining
  joinSelects : e'.joinSelects = e.joinSelects
  joinFilters : e'.joinFilters = e.joinFilters
  ownFilters : e'.ownFilters = e.ownFilters

theorem Frame.refl (e : Entry) : e.Frame e :=
  ⟨rfl, rfl, rfl, rfl⟩

theorem Frame.trans (h : e.Frame e') (h' : e'.Frame e'') : e.Frame e'' where
  remaining := h'.remaining.trans h.remaining
  joinSelects := h'.joinSelects.trans h.joinSelects
  joinFilters := h'.joinFilters.trans h.joinFilters
  ownFilters := h'.ownFilters.trans h.ownFilters

theorem Frame.isAtGrain (h : e.Frame e') : e'.isAtGrain = e.isAtGrain := by
  rw [Entry.isAtGrain, h.remaining, h.joinSelects, Entry.isAtGrain]

theorem AddsOne.frame (h : e.AddsOne name e') : e.Frame e' := by
  cases h <;> exact ⟨rfl, rfl, rfl, rfl⟩

/-- To take up the record of an item is to add one item of its output name. -/
theorem addsOne_record (e : Entry) {record : AggregateRecord} {item : AggregateItem}
    (asked : record.asked? = some item) :
    e.AddsOne (item.field.withCalculation item.calculation) (e.record record) := by
  cases record with
  | ready s => exact .select s (s.outputAlias_of_asked? asked)
  | inPlace a =>
      obtain rfl := Option.some.inj asked
      exact .aggregation a rfl
  | joined table keys a =>
      obtain rfl := Option.some.inj asked
      refine .joined _ table keys a rfl ?_ fun other differs => ?_
      · rw [Keyed.get?_addToGroup, if_pos rfl]
      · rw [Keyed.get?_addToGroup, if_neg differs]

/-- What putting an aggregate item to strategies makes of an entry: if none applies, it is as it
was, and if one does, it has one item more, under the output name of what was asked. Nothing else
is different. -/
structure AddsOneIf (e : Entry) (item : AggregateItem) (applies : Prop) (e' : Entry) : Prop where
  refused : ¬ applies → e' = e
  added : applies → e.AddsOne (item.field.withCalculation item.calculation) e'
  frame : e.Frame e'

end Entry

theorem Attempt.TakesUp.addsOneIf {table : TableName} {attempt : Attempt} {e : Entry}
    {item : AggregateItem} {found : Option AggregateRecord}
    (taken : attempt.TakesUp table e found)
    (asked : ∀ record, found = some record → record.asked? = some item) :
    e.AddsOneIf item (attempt.resolution = .resolved) attempt.entry := by
  cases taken with
  | resolved record =>
      have one := e.addsOne_record (asked record rfl)
      exact ⟨fun refused => absurd rfl refused, fun _ => one, one.frame⟩
  | refused report told =>
      refine ⟨fun _ => rfl, fun applies => ?_, .refl e⟩
      cases applies

theorem Search.TakesUp.addsOneIf {table : TableName} {search : Search} {e : Entry}
    {item : AggregateItem} {found : Option (Strategy × AggregateRecord)}
    (taken : search.TakesUp table e found)
    (asked : ∀ strategy record, found = some (strategy, record) → record.asked? = some item) :
    e.AddsOneIf item (search.strategy ≠ none) search.entry := by
  rw [taken.strategy, taken.entry]
  cases found with
  | none => exact ⟨fun _ => rfl, fun applies => absurd rfl applies, .refl e⟩
  | some answer =>
      have one := e.addsOne_record (asked answer.1 answer.2 rfl)
      exact ⟨fun refused => absurd (Option.some_ne_none answer.1) refused, fun _ => one, one.frame⟩

theorem FactTable.resolveDirect_addsOneIf (t : FactTable) (e : Entry) (lookup : Alias)
    (item : AggregateItem) :
    e.AddsOneIf item ((t.resolveDirect e lookup item).resolution = .resolved)
      (t.resolveDirect e lookup item).entry :=
  (t.resolveDirect_takesUp e lookup item).addsOneIf fun _ => asked?_of_direct?

namespace Strategy

variable {context : AggregateContext} {t : FactTable} {e : Entry} {strategy : Strategy}
variable {record : AggregateRecord}

/-- A strategy reports the item that was put to it, whatever the context says of its field. -/
theorem asked?_of_record? (answers : strategy.record? context t e = some record) :
    record.asked? = some context.item := by
  rcases record?_cases answers with ⟨lookup, -, direct⟩ | ⟨table, keys, column, rfl⟩
  · exact FactTable.asked?_of_direct? direct
  · rfl

variable (context t)

theorem resolve_addsOneIf (e : Entry) (strategy : Strategy) :
    e.AddsOneIf context.item ((strategy.resolve context t e).resolution = .resolved)
      (strategy.resolve context t e).entry :=
  (strategy.resolve_takesUp context t e).addsOneIf fun _ => asked?_of_record?

/-- The strategies that are tried before the one that applies have no part in the outcome. -/
theorem firstOf_addsOneIf (strategies : List Strategy) (e : Entry) :
    e.AddsOneIf context.item ((firstOf context t strategies e).strategy ≠ none)
      (firstOf context t strategies e).entry :=
  (firstOf_takesUp context t e strategies).addsOneIf fun _ _ first =>
    asked?_of_record? (record?_of_first? first)

end Strategy

variable {s : Schema} {o : Options} {t : FactTable} {e e' : Entry}

theorem RequestItem.addsOne_of_serve {item : AggregateItem}
    (served : ((RequestItem.aggregate item).serve s o t e).1 = some e') :
    e.AddsOne (item.field.withCalculation item.calculation) e' := by
  obtain ⟨strategy, found, rfl⟩ := serve_aggregate_eq_some_iff.1 served
  refine (Strategy.firstOf_addsOneIf (.of s item o) t Strategy.order e).added ?_
  rw [found]
  exact Option.some_ne_none strategy

namespace Plan

theorem frame_visit (item : AggregateItem) (p : Plan) (t : FactTable) :
    LiveFrom Entry.Frame p (visit s o (.aggregate item) p t) :=
  liveFrom_visit .refl (fun served => (RequestItem.addsOne_of_serve served).frame) p

/-- Any number of visits for aggregate items, of whichever tables, keeps the frames. -/
theorem frame_run (steps : List PlanStep)
    (aggregates : ∀ step ∈ steps, ∃ item t, step = .visit (.aggregate item) t) (p : Plan) :
    LiveFrom Entry.Frame p (steps.foldl (PlanStep.run s o) p) := by
  refine List.foldlRecOn steps _ (LiveFrom.refl .refl p) fun q kept step listed => ?_
  obtain ⟨item, t, rfl⟩ := aggregates step listed
  exact kept.trans .trans (frame_visit item q t)

end Plan

namespace Schema

theorem exists_visit_of_mem_visits {items : List AggregateItem} {step : PlanStep}
    (listed : step ∈ s.visits (items.map .aggregate)) :
    ∃ item t, step = .visit (.aggregate item) t := by
  obtain ⟨_, requested, visited⟩ := List.mem_flatMap.1 listed
  obtain ⟨item, -, rfl⟩ := List.mem_map.1 requested
  obtain ⟨t, -, rfl⟩ := List.mem_map.1 visited
  exact ⟨item, t, rfl⟩

/-- A strategy that does not apply leaves the entry as it is. One that applies adds exactly one
item, under the output name of the item that was put to it, and changes neither the unused columns
nor the columns selected from dimensions nor the conditions. So it is where an item is answered
over a column of any alias, and so it is for a search through any strategies: it finds the entry
that it leaves as if the ones that failed had not been tried. The planner takes up that entry. And
after any number of visits for any aggregate items, from any plan, a table that is still live is
at the requested grain exactly if it was. -/
theorem attempts_add_one (s : Schema) (o : Options) :
    (∀ (context : AggregateContext) (t : FactTable) (e : Entry) (strategy : Strategy),
      e.AddsOneIf context.item ((strategy.resolve context t e).resolution = .resolved)
        (strategy.resolve context t e).entry) ∧
    (∀ (t : FactTable) (e : Entry) (lookup : Alias) (item : AggregateItem),
      e.AddsOneIf item ((t.resolveDirect e lookup item).resolution = .resolved)
        (t.resolveDirect e lookup item).entry) ∧
    (∀ (context : AggregateContext) (t : FactTable) (strategies : List Strategy) (e : Entry),
      e.AddsOneIf context.item ((Strategy.firstOf context t strategies e).strategy ≠ none)
        (Strategy.firstOf context t strategies e).entry) ∧
    (∀ (t : FactTable) (e e' : Entry) (item : AggregateItem),
      ((RequestItem.aggregate item).serve s o t e).1 = some e' →
        e.AddsOne (item.field.withCalculation item.calculation) e') ∧
    ∀ (items : List AggregateItem) (n : Nat) (p : Plan) (name : TableName) (e' : Entry),
      (((s.visits (items.map .aggregate)).take n).foldl (PlanStep.run s o) p).live.get? name =
          some e' →
        ∃ e, p.live.get? name = some e ∧ e'.isAtGrain = e.isAtGrain ∧ e.Frame e' := by
  refine ⟨fun context t e strategy => strategy.resolve_addsOneIf context t e,
    FactTable.resolveDirect_addsOneIf,
    fun context t => Strategy.firstOf_addsOneIf context t,
    fun t e e' item => RequestItem.addsOne_of_serve, ?_⟩
  intro items n p name e' live
  have aggregates : ∀ step ∈ (s.visits (items.map .aggregate)).take n,
      ∃ item t, step = .visit (.aggregate item) t := fun step listed =>
    exists_visit_of_mem_visits (List.mem_of_mem_take listed)
  obtain ⟨e, before, frame⟩ := Plan.frame_run _ aggregates p name e' live
  exact ⟨e, before, frame.isAtGrain, frame⟩

/-- The rollup stores sums, which cannot be counted: the attempts fail one after another and leave
its entry as it was. -/
example :
    let e := Entry.start Games.byYear
    let search := Strategy.firstOf (.of Games.star ⟨"amount", .count⟩ .standard) Games.byYear
      Strategy.order e
    search.strategy = none ∧ search.entry = e ∧ search.report.length = 1 := by
  decide

end Schema

end StarPlan
