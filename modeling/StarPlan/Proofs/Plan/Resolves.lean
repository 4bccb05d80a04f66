import StarPlan.Proofs.Plan.Answer
import StarPlan.Proofs.Plan.Contents

/-!
# How aggregate items are answered in the course of planning

When the planner comes to an aggregate item of a request, a table has the entry that planning
the request without this and the later aggregate items leaves. `FactTable.Resolves` says of this
entry which strategy is the first to apply and with which record, and `Strategy.column?` over
which column of the table the strategy works.

For a table that survives, the entries in between are alike as far as strategies are concerned
(`FactTable.resolves_iff`), the records are those of its course, and the record over a column
follows from the calculations of the column and the grain (`FactTable.Resolves.record_eq`).
-/

namespace StarPlan

namespace Strategy

/-- The column of a fact table over which a strategy answers an item, unless it answers it over
a column of a dimension. -/
def column? (context : AggregateContext) (t : FactTable) : Strategy → Option FactField
  | serviceKeySubstitution => context.substitution.bind fun d => t.field? d.serviceKey.name
  | directField => t.field? context.item.field
  | joinAggregation => none

variable {context : AggregateContext} {t : FactTable} {e : Entry} {strategy : Strategy}
variable {record : AggregateRecord} {f : FactField}

/-- A strategy that works over a column answers by it directly, by the alias of the column. -/
theorem record?_of_column? (column : strategy.column? context t = some f) :
    ∃ lookup, t.field? lookup = some f ∧
      strategy.record? context t e = t.direct? e lookup context.item := by
  cases strategy with
  | serviceKeySubstitution =>
      obtain ⟨d, allowed, found⟩ := Option.bind_eq_some_iff.1 column
      exact ⟨d.serviceKey.name, found, by rw [record?, allowed, Option.bind_some]⟩
  | directField => exact ⟨context.item.field, column, rfl⟩
  | joinAggregation => cases column

/-- A strategy that applies answers the item over its column, or by a join. -/
theorem record?_cases (answers : strategy.record? context t e = some record) :
    (∃ lookup, strategy.column? context t = t.field? lookup ∧
        t.direct? e lookup context.item = some record) ∨
      ∃ table keys column,
        record = .joined table keys ⟨column, context.item.calculation, context.item.field⟩ := by
  cases strategy with
  | serviceKeySubstitution =>
      obtain ⟨d, allowed, direct⟩ := Option.bind_eq_some_iff.1 answers
      refine .inl ⟨d.serviceKey.name, ?_, direct⟩
      rw [column?, allowed, Option.bind_some]
  | directField => exact .inl ⟨context.item.field, rfl, answers⟩
  | joinAggregation =>
      obtain ⟨d, -, joins⟩ := Option.bind_eq_some_iff.1 answers
      obtain ⟨keys, -, rfl⟩ := Option.map_eq_some_iff.1 joins
      exact .inr ⟨_, _, _, rfl⟩

/-- A record without a join is over a column of the fact table. -/
theorem exists_column? (answers : strategy.record? context t e = some record)
    (own : record.join? = none) : ∃ f, strategy.column? context t = some f := by
  rcases record?_cases answers with ⟨lookup, column, direct⟩ | ⟨table, keys, column, rfl⟩
  · obtain ⟨f, held, -⟩ := FactTable.direct?_eq_some_iff.1 direct
    exact ⟨f, column.trans held⟩
  · cases own

end Strategy

/-- An entry has taken up the record that answers an item. -/
def Entry.Holds (e : Entry) : AggregateRecord → Prop
  | .ready s => s ∈ e.selects
  | .inPlace a => a ∈ e.aggregations
  | .joined table _ a => a ∈ e.joinAggregations.itemsOf table

theorem Course.holds_record {c : Course} {t : FactTable} {p : AggregateItem × AggregateRecord}
    (listed : p ∈ c.records) : (c.entry t).Holds p.2 := by
  obtain ⟨item, s | a | ⟨table, keys, a⟩⟩ := p
  · show s ∈ (c.entry t).selects
    rw [entry_selects]
    exact List.mem_append_right _ (List.mem_filterMap.2 ⟨_, listed, rfl⟩)
  · show a ∈ (c.entry t).aggregations
    rw [entry_aggregations]
    exact List.mem_filterMap.2 ⟨_, listed, rfl⟩
  · show a ∈ (c.entry t).joinAggregations.itemsOf table
    rw [itemsOf_joinAggregations]
    exact List.mem_filterMap.2 ⟨_, listed, if_pos rfl⟩

namespace FactTable

/-- Planning a request, a strategy answers an aggregate item for a table with a record: put to
the strategies in turn, on the entry that the items before it have left, the item is resolved by
this strategy, and this is the record that it takes up. -/
def Resolves (s : Schema) (o : Options) (t : FactTable) (r : Request) (item : AggregateItem)
    (strategy : Strategy) (record : AggregateRecord) : Prop :=
  ∃ before after e, r.aggregate = before ++ item :: after ∧
    (s.plan { r with aggregate := before } o).live.get? t.name = some e ∧
    (Strategy.firstOf (.of s item o) t Strategy.order e).strategy = some strategy ∧
    strategy.record? (.of s item o) t e = some record

variable {s : Schema} {o : Options} {t : FactTable} {r : Request} {item : AggregateItem}
variable {strategy : Strategy} {record : AggregateRecord} {f : FactField}

/-- The items before an aggregate item have no influence on how it is answered. -/
theorem resolves_iff (sound : s.Sound) (member : t ∈ s.facts.values) (serves : t.Serves s o r) :
    t.Resolves s o r item strategy record ↔ item ∈ r.aggregate ∧
      Strategy.first? (.of s item o) t (t.selected s r) Strategy.order =
        some (strategy, record) := by
  -- Up to its aggregate items, the course of the shorter request is that of the whole.
  have grain : ∀ before,
      ((t.course s o { r with aggregate := before }).entry t).isAtGrain =
        (t.selected s r).isAtGrain := fun before => Course.isAtGrain_entry ..
  constructor
  · rintro ⟨before, after, e, listed, live, resolved⟩
    obtain ⟨-, rfl⟩ := (Schema.plan_live_eq_some_iff sound member).1 live
    have first := Strategy.first?_eq_some_iff.2 resolved
    rw [first?_congr (grain before)] at first
    exact ⟨listed ▸ List.mem_append_right _ List.mem_cons_self, first⟩
  · rintro ⟨listed, first⟩
    obtain ⟨before, after, split⟩ := List.append_of_mem listed
    have serves' : t.Serves s o { r with aggregate := before } :=
      ⟨serves.select, serves.filter, fun earlier listed =>
        serves.aggregate earlier (split ▸ List.mem_append_left _ listed)⟩
    refine ⟨before, after, _, split,
      (Schema.plan_live_eq_some_iff sound member).2 ⟨serves', rfl⟩, ?_⟩
    rw [← first?_congr (grain before)] at first
    exact Strategy.first?_eq_some_iff.1 first

theorem exists_resolves_iff (sound : s.Sound) (member : t ∈ s.facts.values)
    (serves : t.Serves s o r) :
    (∃ strategy, t.Resolves s o r item strategy record) ↔
      (item, record) ∈ (t.course s o r).records := by
  have listed : (item, record) ∈ (t.course s o r).records ↔ item ∈ r.aggregate ∧
      t.answer? s o (t.selected s r) item = some record := mem_answered_iff
  rw [listed, answer?, Option.map_eq_some_iff]
  simp only [resolves_iff sound member serves, exists_and_left]
  refine and_congr_right fun _ => ?_
  constructor
  · rintro ⟨strategy, first⟩
    exact ⟨(strategy, record), first, rfl⟩
  · rintro ⟨⟨strategy, _⟩, first, rfl⟩
    exact ⟨strategy, first⟩

theorem Resolves.mem_records (sound : s.Sound) (member : t ∈ s.facts.values)
    (serves : t.Serves s o r) (resolves : t.Resolves s o r item strategy record) :
    (item, record) ∈ (t.course s o r).records :=
  (exists_resolves_iff sound member serves).1 ⟨strategy, resolves⟩

/-- The record that answers an item over a column: an aggregate of a plain column, the column
itself where it stores what is asked for and the table is at the grain, else an aggregate of the
stored results, if it is the one that may follow. -/
theorem Resolves.record_eq (sound : s.Sound) (member : t ∈ s.facts.values)
    (serves : t.Serves s o r) (resolves : t.Resolves s o r item strategy record)
    (column : strategy.column? (.of s item o) t = some f) :
    f.calculation = none ∧ record = .inPlace ⟨f.column, item.calculation, item.field⟩ ∨
      f.calculation = some item.calculation ∧ t.AtGrain r.select ∧
        record = .ready ⟨f.column, item.field, some item.calculation⟩ ∨
      f.calculation ≠ none ∧ ¬ (f.calculation = some item.calculation ∧ t.AtGrain r.select) ∧
        f.following = some item.calculation ∧
        record = .inPlace ⟨f.column, item.calculation, item.field⟩ := by
  obtain ⟨-, first⟩ := (resolves_iff sound member serves).1 resolves
  obtain ⟨lookup, found, direct⟩ :=
    Strategy.record?_of_column? (e := t.selected s r) column
  have answered : t.direct? (t.selected s r) lookup item = some record :=
    direct.symm.trans (Strategy.record?_of_first? first)
  obtain ⟨g, held, shape⟩ := direct?_eq_some_iff.1 answered
  obtain rfl := Option.some.inj (held.symm.trans found)
  rwa [isAtGrain_selected_iff (sound.fact member) serves.select] at shape

theorem ready_ne_none_of_mem {select : PlainSelect}
    (listed : select ∈ (t.course s o r).records.filterMap (·.2.ready?)) : select.ready ≠ none := by
  obtain ⟨⟨item, record⟩, answered, shown⟩ := List.mem_filterMap.1 listed
  have asked := asked?_of_answer? (mem_answered_iff.1 answered).2
  cases record with
  | ready stored =>
      obtain rfl := Option.some.inj shown
      obtain ⟨calculation, holds, -⟩ := Option.map_eq_some_iff.1 asked
      rw [holds]
      exact Option.some_ne_none calculation
  | inPlace _ | joined _ _ _ => cases shown

/-- What an entry takes from the table itself to answer an item, it takes from a column. -/
theorem exists_column_of_mem_records (sound : s.Sound) (member : t ∈ s.facts.values)
    (serves : t.Serves s o r) (listed : (item, record) ∈ (t.course s o r).records)
    (own : record.join? = none) :
    ∃ strategy f, t.Resolves s o r item strategy record ∧
      strategy.column? (.of s item o) t = some f := by
  obtain ⟨strategy, resolves⟩ := (exists_resolves_iff sound member serves).2 listed
  obtain ⟨-, first⟩ := (resolves_iff sound member serves).1 resolves
  obtain ⟨f, column⟩ := Strategy.exists_column? (Strategy.record?_of_first? first) own
  exact ⟨strategy, f, resolves, column⟩

end FactTable

end StarPlan
