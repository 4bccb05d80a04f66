import StarPlan.Proofs.Plan.Isolation
import StarPlan.Proofs.Plan.Records

/-!
# The course of a table through a request

The planner decides item by item, but what it decides depends on little. Where a selected or
filtered field comes from depends on the table and the schema alone. How an aggregate item is
answered also depends on whether the table is at the requested grain, and that is settled once
the select items are done: `isAtGrain` is touched neither by filters nor by aggregates.

So the whole run of a table has a closed form. `FactTable.course` lists the decisions, each
beside its item, `Course.entry` carries them out, and `Schema.plan_live_eq_some_iff` says that
a table survives exactly if every item finds an answer, with the entry of its course.
-/

namespace StarPlan

section

variable {α β σ : Type}

/-- The elements that find an answer, each with its answer. -/
def answered (find : α → Option β) (l : List α) : List (α × β) :=
  l.filterMap fun x => (find x).map (x, ·)

variable {find : α → Option β} {l : List α}

theorem mem_answered_iff {p : α × β} : p ∈ answered find l ↔ p.1 ∈ l ∧ find p.1 = some p.2 := by
  obtain ⟨x, y⟩ := p
  simp only [answered, List.mem_filterMap, Option.map_eq_some_iff, Prod.mk.injEq]
  constructor
  · rintro ⟨a, member, b, found, rfl, rfl⟩
    exact ⟨member, found⟩
  · rintro ⟨member, found⟩
    exact ⟨x, member, y, found, rfl, rfl⟩

theorem map_fst_answered (all : ∀ x ∈ l, ∃ y, find x = some y) :
    (answered find l).map (·.1) = l := by
  induction l with
  | nil => rfl
  | cons x rest ih =>
      obtain ⟨y, found⟩ := all x List.mem_cons_self
      have tail := ih fun z member => all z (List.mem_cons_of_mem _ member)
      rw [answered, List.filterMap_cons_some (by rw [found]; rfl), List.map_cons]
      exact congrArg (x :: ·) tail

theorem filterMap_answered {γ : Type} (view : α → β → Option γ) :
    (answered find l).filterMap (fun p => view p.1 p.2) =
      l.filterMap fun x => (find x).bind (view x) := by
  rw [answered, List.filterMap_filterMap]
  refine congrArg (List.filterMap · l) (funext fun x => ?_)
  cases find x <;> rfl

/-- A fold whose steps search for an answer that the state does not influence, as long as the
state keeps a property: it succeeds if every element finds its answer. -/
theorem foldlM_eq_some_iff {step : σ → α → Option σ} (find : α → Option β)
    (extend : σ → α → β → σ) (P : σ → Prop) (keeps : ∀ e x y, P e → P (extend e x y))
    (steps : ∀ e x, P e → step e x = (find x).map (extend e x)) {e e' : σ} (start : P e) :
    l.foldlM step e = some e' ↔
      (∀ x ∈ l, ∃ y, find x = some y) ∧
        e' = (answered find l).foldl (fun e p => extend e p.1 p.2) e := by
  induction l generalizing e with
  | nil =>
      show some e = some e' ↔ _
      simp [answered, eq_comm]
  | cons x rest ih =>
      rw [List.foldlM_cons, steps e x start]
      cases found : find x with
      | none =>
          have unanswered : ¬ ∀ z ∈ x :: rest, ∃ y, find z = some y := by
            intro all
            obtain ⟨y, hy⟩ := all x List.mem_cons_self
            rw [found] at hy
            cases hy
          exact iff_of_false nofun fun succeeds => unanswered succeeds.1
      | some y =>
          have head : answered find (x :: rest) = (x, y) :: answered find rest := by
            simp [answered, found]
          rw [Option.map_some, head, List.foldl_cons]
          refine (ih (keeps e x y start)).trans (and_congr_left fun _ => ?_)
          simp [found]

end

/-- The source of a selected or filtered field. -/
def FactTable.locate? (schema : Schema) (t : FactTable) (field : Alias) : Option FieldSource :=
  t.source? field (schema.lookupDimension field)

/-- The record that answers an aggregate item over a table with the given entry. -/
def FactTable.answer? (schema : Schema) (options : Options) (t : FactTable) (e : Entry)
    (item : AggregateItem) : Option AggregateRecord :=
  (Strategy.first? (.of schema item options) t e Strategy.order).map (·.2)

namespace Entry

/-- Selects fields from their sources. -/
def selectAll (e : Entry) (l : List (Alias × FieldSource)) : Entry :=
  l.foldl (fun e p => e.select p.1 p.2) e

/-- Filters by fields from their sources. -/
def filterAll (e : Entry) (l : List (FilterItem × FieldSource)) : Entry :=
  l.foldl (fun e p => e.filter p.1 p.2) e

/-- Adds the answers to aggregate items. -/
def recordAll (e : Entry) (l : List (AggregateItem × AggregateRecord)) : Entry :=
  l.foldl (fun e p => e.record p.2) e

@[simp] theorem selectAll_nil (e : Entry) : e.selectAll [] = e := rfl

@[simp] theorem selectAll_cons (e : Entry) (p : Alias × FieldSource)
    (l : List (Alias × FieldSource)) :
    e.selectAll (p :: l) = (e.select p.1 p.2).selectAll l := rfl

@[simp] theorem filterAll_cons (e : Entry) (p : FilterItem × FieldSource)
    (l : List (FilterItem × FieldSource)) :
    e.filterAll (p :: l) = (e.filter p.1 p.2).filterAll l := rfl

@[simp] theorem recordAll_cons (e : Entry) (p : AggregateItem × AggregateRecord)
    (l : List (AggregateItem × AggregateRecord)) :
    e.recordAll (p :: l) = (e.record p.2).recordAll l := rfl

/-! What a pass may change: everything else stands as it was. -/

theorem selectAll_frame (e : Entry) (l : List (Alias × FieldSource)) :
    e.selectAll l =
      { e with
        selects := (e.selectAll l).selects
        joinSelects := (e.selectAll l).joinSelects
        remaining := (e.selectAll l).remaining } := by
  induction l generalizing e with
  | nil => rfl
  | cons p rest ih =>
      rw [selectAll_cons, ih]
      obtain ⟨field, f | ⟨d, keys⟩⟩ := p <;> rfl

theorem filterAll_frame (e : Entry) (l : List (FilterItem × FieldSource)) :
    e.filterAll l =
      { e with
        joinFilters := (e.filterAll l).joinFilters
        ownFilters := (e.filterAll l).ownFilters } := by
  induction l generalizing e with
  | nil => rfl
  | cons p rest ih =>
      rw [filterAll_cons, ih]
      obtain ⟨item, f | ⟨d, keys⟩⟩ := p <;> rfl

theorem recordAll_frame (e : Entry) (l : List (AggregateItem × AggregateRecord)) :
    e.recordAll l =
      { e with
        selects := (e.recordAll l).selects
        aggregations := (e.recordAll l).aggregations
        joinAggregations := (e.recordAll l).joinAggregations } := by
  induction l generalizing e with
  | nil => rfl
  | cons p rest ih =>
      rw [recordAll_cons, ih]
      obtain ⟨item, s | a | ⟨table, keys, a⟩⟩ := p <;> rfl

theorem recordAll_keeps (e : Entry) (l : List (AggregateItem × AggregateRecord)) :
    (e.recordAll l).remaining = e.remaining ∧ (e.recordAll l).joinSelects = e.joinSelects ∧
      (e.recordAll l).joinFilters = e.joinFilters ∧
      (e.recordAll l).ownFilters = e.ownFilters := by
  rw [recordAll_frame]
  exact ⟨rfl, rfl, rfl, rfl⟩

theorem filterAll_isAtGrain (e : Entry) (l : List (FilterItem × FieldSource)) :
    (e.filterAll l).isAtGrain = e.isAtGrain := by
  rw [filterAll_frame]
  rfl

theorem record_isAtGrain (e : Entry) (record : AggregateRecord) :
    (e.record record).isAtGrain = e.isAtGrain := by
  cases record <;> rfl

theorem recordAll_isAtGrain (e : Entry) (l : List (AggregateItem × AggregateRecord)) :
    (e.recordAll l).isAtGrain = e.isAtGrain := by
  rw [recordAll_frame]
  rfl

end Entry

/-- The decisions of a run, each beside the item that it answers. -/
structure Course where
  selects : List (Alias × FieldSource)
  filters : List (FilterItem × FieldSource)
  records : List (AggregateItem × AggregateRecord)

/-- The entry that the decisions of a run add up to. -/
def Course.entry (c : Course) (t : FactTable) : Entry :=
  (((Entry.start t).selectAll c.selects).filterAll c.filters).recordAll c.records

theorem Course.isAtGrain_entry (c : Course) (t : FactTable) :
    (c.entry t).isAtGrain = ((Entry.start t).selectAll c.selects).isAtGrain := by
  rw [entry, Entry.recordAll_isAtGrain, Entry.filterAll_isAtGrain]

namespace FactTable

/-- The entry of a table after the select items. -/
def selected (schema : Schema) (t : FactTable) (r : Request) : Entry :=
  (Entry.start t).selectAll (answered (t.locate? schema) r.select)

/-- The decisions for a request. Items without an answer are left out. -/
def course (schema : Schema) (options : Options) (t : FactTable) (r : Request) : Course where
  selects := answered (t.locate? schema) r.select
  filters := answered (fun item => t.locate? schema item.field) r.filter
  records := answered (t.answer? schema options (t.selected schema r)) r.aggregate

/-- Every item of a request finds an answer. -/
structure Serves (schema : Schema) (options : Options) (t : FactTable) (r : Request) : Prop where
  select : ∀ field ∈ r.select, ∃ source, t.locate? schema field = some source
  filter : ∀ item ∈ r.filter, ∃ source, t.locate? schema item.field = some source
  aggregate : ∀ item ∈ r.aggregate, ∃ record,
    t.answer? schema options (t.selected schema r) item = some record

variable {schema : Schema} {options : Options} {t : FactTable} {r : Request} {e e' : Entry}

/-! If every item finds an answer, the course of the table goes through all of them. -/

theorem Serves.map_fst_selects (serves : t.Serves schema options r) :
    (t.course schema options r).selects.map (·.1) = r.select :=
  map_fst_answered serves.select

theorem Serves.map_fst_filters (serves : t.Serves schema options r) :
    (t.course schema options r).filters.map (·.1) = r.filter :=
  map_fst_answered serves.filter

theorem Serves.map_fst_records (serves : t.Serves schema options r) :
    (t.course schema options r).records.map (·.1) = r.aggregate :=
  map_fst_answered serves.aggregate

/-! The grain is all that a strategy reads of an entry. -/

theorem direct?_congr (same : e.isAtGrain = e'.isAtGrain) (lookup : Alias)
    (item : AggregateItem) : t.direct? e lookup item = t.direct? e' lookup item := by
  simp only [direct?, same]

theorem record?_congr (same : e.isAtGrain = e'.isAtGrain) (context : AggregateContext)
    (strategy : Strategy) : strategy.record? context t e = strategy.record? context t e' := by
  cases strategy with
  | serviceKeySubstitution => simp only [Strategy.record?, direct?_congr same]
  | directField => exact direct?_congr same ..
  | joinAggregation => rfl

theorem first?_congr (same : e.isAtGrain = e'.isAtGrain) (context : AggregateContext)
    (strategies : List Strategy) :
    Strategy.first? context t e strategies = Strategy.first? context t e' strategies := by
  simp only [Strategy.first?, record?_congr same]

theorem answer?_congr (same : e.isAtGrain = e'.isAtGrain) (item : AggregateItem) :
    t.answer? schema options e item = t.answer? schema options e' item := by
  rw [answer?, answer?, first?_congr same]

theorem serve_select (field : Alias) :
    ((RequestItem.select field).serve schema options t e).1 =
      (t.locate? schema field).map (e.select field) := rfl

theorem serve_filter (item : FilterItem) :
    ((RequestItem.filter item).serve schema options t e).1 =
      (t.locate? schema item.field).map (e.filter item) := rfl

theorem serve_aggregate (item : AggregateItem) :
    ((RequestItem.aggregate item).serve schema options t e).1 =
      (t.answer? schema options e item).map e.record := by
  have search := Strategy.firstOf_takesUp (.of schema item options) t e Strategy.order
  rw [RequestItem.serve, answer?, search.strategy, search.entry]
  cases Strategy.first? (.of schema item options) t e Strategy.order <;> rfl

theorem serveAll_selectItems :
    t.serveAll schema options r.selectItems (.start t) = some e ↔
      (∀ field ∈ r.select, ∃ source, t.locate? schema field = some source) ∧
        e = t.selected schema r := by
  rw [serveAll, Request.selectItems, List.foldlM_map]
  exact foldlM_eq_some_iff (t.locate? schema) Entry.select (fun _ => True)
    (fun _ _ _ _ => trivial) (fun e field _ => serve_select field) trivial

theorem serveAll_filterItems :
    t.serveAll schema options r.filterItems e = some e' ↔
      (∀ item ∈ r.filter, ∃ source, t.locate? schema item.field = some source) ∧
        e' = e.filterAll (t.course schema options r).filters := by
  rw [serveAll, Request.filterItems, List.foldlM_map]
  exact foldlM_eq_some_iff (fun item => t.locate? schema item.field) Entry.filter (fun _ => True)
    (fun _ _ _ _ => trivial) (fun e item _ => serve_filter item) trivial

theorem serveAll_aggregateItems (grain : e.isAtGrain = (t.selected schema r).isAtGrain) :
    t.serveAll schema options r.aggregateItems e = some e' ↔
      (∀ item ∈ r.aggregate, ∃ record,
        t.answer? schema options (t.selected schema r) item = some record) ∧
        e' = e.recordAll (t.course schema options r).records := by
  rw [serveAll, Request.aggregateItems, List.foldlM_map]
  refine foldlM_eq_some_iff (t.answer? schema options (t.selected schema r))
    (fun e _ record => Entry.record e record)
    (fun e => e.isAtGrain = (t.selected schema r).isAtGrain) ?_ ?_ grain
  · intro e _ record same
    rw [Entry.record_isAtGrain, same]
  · intro e item same
    rw [serve_aggregate, answer?_congr same]

theorem serveAll_items :
    t.serveAll schema options r.items (.start t) = some e ↔
      t.Serves schema options r ∧ e = (t.course schema options r).entry t := by
  have grain : ((t.selected schema r).filterAll (t.course schema options r).filters).isAtGrain =
      (t.selected schema r).isAtGrain := Entry.filterAll_isAtGrain ..
  rw [Request.items, serveAll_append, serveAll_append]
  simp only [Option.bind_eq_some_iff, serveAll_selectItems, serveAll_filterItems]
  constructor
  · rintro ⟨_, ⟨_, ⟨select, rfl⟩, filter, rfl⟩, aggregates⟩
    obtain ⟨aggregate, rfl⟩ := (serveAll_aggregateItems grain).1 aggregates
    exact ⟨⟨select, filter, aggregate⟩, rfl⟩
  · rintro ⟨serves, rfl⟩
    exact ⟨_, ⟨_, ⟨serves.select, rfl⟩, serves.filter, rfl⟩,
      (serveAll_aggregateItems grain).2 ⟨serves.aggregate, rfl⟩⟩

end FactTable

/-- A table survives exactly if every item finds an answer, with the entry of its course. -/
theorem Schema.plan_live_eq_some_iff {schema : Schema} (sound : schema.Sound) {t : FactTable}
    (member : t ∈ schema.facts.values) {r : Request} {options : Options} {e : Entry} :
    (schema.plan r options).live.get? t.name = some e ↔
      t.Serves schema options r ∧ e = (t.course schema options r).entry t := by
  rw [plan_live sound member, FactTable.serveAll_items]

theorem Schema.live_contains_iff {schema : Schema} (sound : schema.Sound) {t : FactTable}
    (member : t ∈ schema.facts.values) {r : Request} {options : Options} :
    (schema.plan r options).live.contains t.name = true ↔ t.Serves schema options r := by
  simp only [Keyed.contains_iff, plan_live_eq_some_iff sound member, exists_and_left,
    exists_eq, and_true]

end StarPlan
