import StarPlan.Proofs.Plan.Contents
import StarPlan.Proofs.Plan.Scopes
import StarPlan.Proofs.Plan.Survival

/-!
# The order of items does not matter

Two requests that list the same items, section by section in any order, are planned alike: the
same tables survive, and the two entries of a table differ in the order of what they list only
(`Schema.plan_reorders`). Whether a table can answer depends on which items there are; so does
the grain, on which the records depend; and the keys by which a dimension is joined are the same
for all its items, so that it does not matter whose keys are kept.
-/

namespace StarPlan

/-- Two requests list the same items, each section in some order. -/
structure Request.Reorders (r r' : Request) : Prop where
  select : r.select.Perm r'.select
  filter : r.filter.Perm r'.filter
  aggregate : r.aggregate.Perm r'.aggregate

/-- Two maps have the same names, and under each of them related values. -/
structure Keyed.Alike {α : Type} (related : α → α → Prop) (m n : Keyed α) : Prop where
  names : m.names = n.names
  values : ∀ {name a b}, m.get? name = some a → n.get? name = some b → related a b

/-- Two groups have the same keys and list the same items in some order. -/
structure JoinGroup.Reorders {α : Type} (g g' : JoinGroup α) : Prop where
  keys : g.keys = g'.keys
  items : g.items.Perm g'.items

theorem Keyed.alike_groups {α : Type} {m n : Keyed (JoinGroup α)}
    (keys : ∀ table, m.keysOf table = n.keysOf table)
    (items : ∀ table, (m.itemsOf table).Perm (n.itemsOf table)) :
    m.Alike JoinGroup.Reorders n where
  names := by
    apply names_congr
    intro table
    have both := congrArg Option.isSome (keys table)
    rwa [keysOf, keysOf, Option.isSome_map, Option.isSome_map] at both
  values {table g g'} found found' := by
    have key := keys table
    have item := items table
    rw [keysOf, keysOf, found, found'] at key
    rw [itemsOf, itemsOf, found, found'] at item
    exact ⟨Option.some.inj key, item⟩

/-- Two entries differ in the order of what they list only. -/
structure Entry.Reorders (e e' : Entry) : Prop where
  remaining : e.remaining = e'.remaining
  isAtGrain : e.isAtGrain = e'.isAtGrain
  hasAggregation : e.hasAggregation = e'.hasAggregation
  joinTables : e.joinTables = e'.joinTables
  selects : e.selects.Perm e'.selects
  aggregations : e.aggregations.Perm e'.aggregations
  joinSelects : e.joinSelects.Alike JoinGroup.Reorders e'.joinSelects
  joinAggregations : e.joinAggregations.Alike JoinGroup.Reorders e'.joinAggregations
  joinFilters : e.joinFilters.Alike JoinGroup.Reorders e'.joinFilters
  ownFilters : e.ownFilters.Alike List.Perm e'.ownFilters

/-- Two courses take the same decisions in some order. -/
structure Course.Reorders (c c' : Course) : Prop where
  selects : c.selects.Perm c'.selects
  filters : c.filters.Perm c'.filters
  records : c.records.Perm c'.records

namespace Course.Reorders

variable {c c' : Course}

theorem joins (perm : c.Reorders c') : c.joins.Perm c'.joins :=
  ((perm.selects.filterMap _).append (perm.records.filterMap _)).append
    (perm.filters.filterMap _)

theorem entry_remaining (perm : c.Reorders c') (t : FactTable) :
    (c.entry t).remaining = (c'.entry t).remaining := by
  apply Names.ext
  intro name
  rw [Course.entry_remaining, Course.entry_remaining, perm.selects.all_eq]

theorem entry_hasAggregation (perm : c.Reorders c') (t : FactTable) :
    (c.entry t).hasAggregation = (c'.entry t).hasAggregation := by
  have own := (perm.records.filterMap fun p => p.2.inPlace?).isEmpty_eq
  have joined := fun table =>
    (perm.records.filterMap fun p => p.2.joined?.bind (under table)).isEmpty_eq
  rw [Bool.eq_iff_iff, Entry.hasAggregation_iff, Entry.hasAggregation_iff]
  simp only [Course.entry_aggregations, Course.itemsOf_joinAggregations, ne_eq,
    ← List.isEmpty_iff, own, joined]

/-- If all joins of a dimension have the same keys, the entries differ in order only. -/
theorem entry (perm : c.Reorders c') (t : FactTable)
    (one : ∀ p ∈ c.joins, ∀ q ∈ c.joins, p.1 = q.1 → p.2 = q.2)
    (grain : (c.entry t).isAtGrain = (c'.entry t).isAtGrain) :
    (c.entry t).Reorders (c'.entry t) where
  remaining := perm.entry_remaining t
  isAtGrain := grain
  hasAggregation := perm.entry_hasAggregation t
  joinTables := by
    apply Keyed.ext_get?
    intro table
    rw [Course.get?_joinTables, Course.get?_joinTables, Keyed.lookup_perm perm.joins one]
  selects := by
    rw [Course.entry_selects, Course.entry_selects]
    exact (perm.selects.filterMap _).append (perm.records.filterMap _)
  aggregations := by
    rw [Course.entry_aggregations, Course.entry_aggregations]
    exact perm.records.filterMap _
  joinSelects := by
    apply Keyed.alike_groups
    · intro table
      rw [Course.keysOf_joinSelects, Course.keysOf_joinSelects]
      refine Keyed.lookup_perm (perm.selects.filterMap _) (fun p hp q hq => ?_) table
      exact one p (List.mem_append_left _ (List.mem_append_left _ hp)) q
        (List.mem_append_left _ (List.mem_append_left _ hq))
    · intro table
      rw [Course.itemsOf_joinSelects, Course.itemsOf_joinSelects]
      exact perm.selects.filterMap _
  joinAggregations := by
    apply Keyed.alike_groups
    · intro table
      rw [Course.keysOf_joinAggregations, Course.keysOf_joinAggregations]
      refine Keyed.lookup_perm (perm.records.filterMap _) (fun p hp q hq => ?_) table
      exact one p (List.mem_append_left _ (List.mem_append_right _ hp)) q
        (List.mem_append_left _ (List.mem_append_right _ hq))
    · intro table
      rw [Course.itemsOf_joinAggregations, Course.itemsOf_joinAggregations]
      exact perm.records.filterMap _
  joinFilters := by
    apply Keyed.alike_groups
    · intro table
      rw [Course.keysOf_joinFilters, Course.keysOf_joinFilters]
      refine Keyed.lookup_perm (perm.filters.filterMap _) (fun p hp q hq => ?_) table
      exact one p (List.mem_append_right _ hp) q (List.mem_append_right _ hq)
    · intro table
      rw [Course.itemsOf_joinFilters, Course.itemsOf_joinFilters]
      exact perm.filters.filterMap _
  ownFilters := {
    names := by
      apply Keyed.names_congr
      intro column
      rw [Course.entry_ownFilters_contains, Course.entry_ownFilters_contains,
        perm.filters.any_eq]
    values := by
      intro column cs cs' found found'
      have conditions := perm.filters.filterMap fun p =>
        (p.2.ownFilter? p.1).bind (under column)
      rw [← Course.entry_conditionsOn c t, ← Course.entry_conditionsOn c' t,
        Entry.conditionsOn, Entry.conditionsOn, found, found'] at conditions
      exact conditions }

end Course.Reorders

namespace FactTable

variable {s : Schema} {o : Options} {t : FactTable} {r r' : Request}

theorem atGrain_perm {select select' : List Alias} (perm : select.Perm select') :
    t.AtGrain select ↔ t.AtGrain select' := by
  simp only [AtGrain, perm.mem_iff]

theorem canAggregate_perm {select select' : List Alias} (perm : select.Perm select')
    (item : AggregateItem) : t.CanAggregate s o select item ↔ t.CanAggregate s o select' item := by
  simp only [CanAggregate, CanCountKey, Direct, atGrain_perm perm]

theorem canAnswer_reorders (perm : r.Reorders r') : t.CanAnswer s o r ↔ t.CanAnswer s o r' := by
  constructor
  · intro answers
    exact {
      select := fun field listed => answers.select field (perm.select.mem_iff.2 listed)
      filter := fun item listed => answers.filter item (perm.filter.mem_iff.2 listed)
      aggregate := fun item listed => (canAggregate_perm perm.select item).1
        (answers.aggregate item (perm.aggregate.mem_iff.2 listed)) }
  · intro answers
    exact {
      select := fun field listed => answers.select field (perm.select.mem_iff.1 listed)
      filter := fun item listed => answers.filter item (perm.filter.mem_iff.1 listed)
      aggregate := fun item listed => (canAggregate_perm perm.select item).2
        (answers.aggregate item (perm.aggregate.mem_iff.1 listed)) }

theorem isAtGrain_selected_reorders (built : t.Built) (perm : r.Reorders r')
    (served : ∀ field ∈ r.select, ∃ source, t.locate? s field = some source) :
    (t.selected s r).isAtGrain = (t.selected s r').isAtGrain := by
  have served' : ∀ field ∈ r'.select, ∃ source, t.locate? s field = some source :=
    fun field listed => served field (perm.select.mem_iff.2 listed)
  rw [Bool.eq_iff_iff, isAtGrain_selected_iff built served, isAtGrain_selected_iff built served',
    atGrain_perm perm.select]

theorem course_reorders (built : t.Built) (perm : r.Reorders r') (serves : t.Serves s o r) :
    (t.course s o r).Reorders (t.course s o r') where
  selects := perm.select.filterMap _
  filters := perm.filter.filterMap _
  records := by
    have same : t.answer? s o (t.selected s r) = t.answer? s o (t.selected s r') := by
      funext item
      exact answer?_congr (isAtGrain_selected_reorders built perm serves.select) item
    show (answered (t.answer? s o (t.selected s r)) r.aggregate).Perm _
    rw [same]
    exact perm.aggregate.filterMap _

theorem entry_reorders (sound : s.Sound) (built : t.Built) (perm : r.Reorders r')
    (serves : t.Serves s o r) :
    ((t.course s o r).entry t).Reorders ((t.course s o r').entry t) := by
  refine (course_reorders built perm serves).entry t (joins_course_unique sound) ?_
  rw [Course.isAtGrain_entry, Course.isAtGrain_entry]
  exact isAtGrain_selected_reorders built perm serves.select

end FactTable

namespace Schema

variable {s : Schema} {o : Options} {r r' : Request}

theorem live_contains_reorders (sound : s.Sound) (perm : r.Reorders r') (name : TableName) :
    (s.plan r o).live.contains name = (s.plan r' o).live.contains name := by
  cases known : s.facts.get? name with
  | none =>
      have unknown : s.facts.contains name = false := Keyed.contains_eq_false_iff.2 known
      rw [(s.plan_accounts r o).live_of_unknown unknown,
        (s.plan_accounts r' o).live_of_unknown unknown]
  | some t =>
      obtain rfl := sound.factName known
      have member : t ∈ s.facts.values := Keyed.mem_values_iff.2 ⟨_, known⟩
      have built := sound.fact member
      rw [Bool.eq_iff_iff, live_contains_iff sound member, live_contains_iff sound member,
        FactTable.serves_iff_canAnswer sound built, FactTable.serves_iff_canAnswer sound built,
        FactTable.canAnswer_reorders perm]

/-- Reordering the items of each section changes neither which tables survive nor, up to order,
their entries. -/
theorem plan_reorders (built : s.Built) (perm : r.Reorders r') (o : Options) :
    (s.plan r o).live.Alike Entry.Reorders (s.plan r' o).live ∧
      (s.plan r o).evicted = (s.plan r' o).evicted := by
  have sound := built.sound
  have live := live_contains_reorders (o := o) sound perm
  refine ⟨⟨Keyed.names_congr live, ?_⟩, Names.ext fun name => ?_⟩
  · intro name e e' survives survives'
    obtain ⟨t, member, rfl⟩ := exists_fact_of_live sound survives
    obtain ⟨serves, rfl⟩ := (plan_live_eq_some_iff sound member).1 survives
    obtain ⟨-, rfl⟩ := (plan_live_eq_some_iff sound member).1 survives'
    exact FactTable.entry_reorders sound (sound.fact member) perm serves
  · rw [(s.plan_accounts r o).evicted_eq, (s.plan_accounts r' o).evicted_eq, live]

/-- The aggregates over one column of the base table change places, and so do the two items
that join the dimension, the first of which brings the keys. -/
theorem plan_reorders_games :
    let r : Request := ⟨["genre", "year", "game"], [⟨"amount", .sum⟩, ⟨"amount", .max⟩],
      [⟨"year", .ge, "2020"⟩, ⟨"year", .lt, "2024"⟩]⟩
    let r' : Request := ⟨["game", "genre", "year"], [⟨"amount", .max⟩, ⟨"amount", .sum⟩],
      [⟨"year", .lt, "2024"⟩, ⟨"year", .ge, "2020"⟩]⟩
    r.Reorders r' ∧ (Games.star.plan r .standard).evicted = (Games.star.plan r' .standard).evicted ∧
      ∃ e e', (Games.star.plan r .standard).live.get? Games.sales.name = some e ∧
        (Games.star.plan r' .standard).live.get? Games.sales.name = some e' ∧ e.Reorders e' := by
  intro r r'
  have perm : r.Reorders r' := ⟨by decide, by decide, by decide⟩
  obtain ⟨alike, evicted⟩ := plan_reorders Games.star_built perm .standard
  have live : (Games.star.plan r .standard).live.contains Games.sales.name = true := by decide
  have live' : (Games.star.plan r' .standard).live.contains Games.sales.name = true := by decide
  obtain ⟨e, survives⟩ := Keyed.contains_iff.1 live
  obtain ⟨e', survives'⟩ := Keyed.contains_iff.1 live'
  exact ⟨perm, evicted, e, e', survives, survives', alike.values survives survives'⟩

end Schema

end StarPlan
