import StarPlan.Proofs.Plan.Contents
import StarPlan.Proofs.Plan.Scopes

/-!
# Answers from a table's own columns

A request may need nothing but the columns of a fact table (`FactTable.Alone`). Then nothing is
joined, the columns of the planned query stand in the order of the request, and its cells are
those of the rows of the table. If all aggregates are computed the query has the answer to the
request over these rows (`FactTable.answer_of_isInPlace`). If all of them are stored, each row
that passes the filters is handed out (`FactTable.answer_of_isReady`).
-/

namespace StarPlan

open Sql

variable {V : Type}

/-- An answer that the table holds already. -/
def AggregateRecord.isReady : AggregateRecord → Bool
  | ready _ => true
  | _ => false

/-- An answer that is computed from a column of the table. -/
def AggregateRecord.isInPlace : AggregateRecord → Bool
  | inPlace _ => true
  | _ => false

namespace Entry

variable (e : Entry)

theorem selectAll_joinedItems {l : List (Alias × FieldSource)}
    (native : ∀ p ∈ l, p.2.join? = none) : (e.selectAll l).joinedItems = e.joinedItems := by
  refine foldl_same (fun e : Entry => e.joinedItems) _ ?_ e
  rintro ⟨field, f | ⟨d, keys⟩⟩ member e
  · rfl
  · cases native _ member

theorem recordAll_joinedAggregateItems {l : List (AggregateItem × AggregateRecord)}
    (unjoined : ∀ p ∈ l, p.2.join? = none) :
    (e.recordAll l).joinedAggregateItems = e.joinedAggregateItems := by
  refine foldl_same (fun e : Entry => e.joinedAggregateItems) _ ?_ e
  rintro ⟨item, s | a | ⟨table, keys, a⟩⟩ member e
  · rfl
  · rfl
  · cases unjoined _ member

end Entry

namespace Course

variable (c : Course) (t : FactTable)

theorem entry_plainItems (native : ∀ p ∈ c.selects, p.2.join? = none) (fact : String) :
    (c.entry t).plainItems fact = c.selects.map (fun p => p.2.item fact p.1) ++
      (c.records.filter (·.2.isReady)).map (·.2.item fact) := by
  rw [Entry.plainItems, entry_selects, List.map_append, List.map_filterMap, List.map_filterMap]
  congr 1
  · rw [← List.filterMap_eq_map]
    refine List.filterMap_congr ?_
    rintro ⟨field, f | ⟨d, keys⟩⟩ member
    · rfl
    · cases native _ member
  · rw [← List.filterMap_eq_map, List.filterMap_filter]
    refine List.filterMap_congr ?_
    rintro ⟨item, s | a | ⟨table, keys, a⟩⟩ -
    all_goals rfl

theorem entry_aggregateItems (fact : String) :
    (c.entry t).aggregateItems fact =
      (c.records.filter (·.2.isInPlace)).map (·.2.item fact) := by
  rw [Entry.aggregateItems, entry_aggregations, List.map_filterMap, ← List.filterMap_eq_map,
    List.filterMap_filter]
  refine List.filterMap_congr ?_
  rintro ⟨item, s | a | ⟨table, keys, a⟩⟩ -
  all_goals rfl

/-- The columns of the query when nothing is joined: those that stand in the table, as they
are, and those that are computed. -/
theorem toQuery_select_of_joins (none : c.joins = []) :
    ((c.entry t).toQuery t.name).select =
      c.selects.map (fun p => p.2.item t.name.shortName p.1) ++
        ((c.records.filter (·.2.isReady)).map (·.2.item t.name.shortName) ++
          (c.records.filter (·.2.isInPlace)).map (·.2.item t.name.shortName)) := by
  rw [joins, List.append_eq_nil_iff, List.append_eq_nil_iff, List.filterMap_eq_nil_iff,
    List.filterMap_eq_nil_iff] at none
  obtain ⟨⟨native, unjoined⟩, -⟩ := none
  have joinedAggregates : (c.entry t).joinedAggregateItems = [] := by
    rw [entry, Entry.recordAll_joinedAggregateItems _ unjoined, Entry.filterAll_frame,
      Entry.selectAll_frame]
    rfl
  have joined : (c.entry t).joinedItems = [] := by
    rw [entry, Entry.recordAll_frame, Entry.filterAll_frame]
    exact Entry.selectAll_joinedItems _ native
  rw [Entry.toQuery_select, joined, joinedAggregates, List.append_nil, List.append_nil,
    entry_plainItems c t native, entry_aggregateItems, List.append_assoc]

end Course

namespace FactTable

/-- A row of a fact table by the aliases of its columns. -/
def byAlias (t : FactTable) (row : Record V) : Record V := fun name =>
  (t.field? name).bind fun f => row f.column

/-- A request needs nothing but columns of a table: it selects and filters by plain ones, and
no dimension exposes what it aggregates. -/
structure Alone (s : Schema) (t : FactTable) (r : Request) : Prop where
  select : ∀ name ∈ r.select, name ∈ t.plainAliases
  filter : ∀ item ∈ r.filter, item.field ∈ t.plainAliases
  aggregate : ∀ item ∈ r.aggregate, s.lookupDimension item.field = none

variable {s : Schema} {o : Options} {t : FactTable} {r : Request}

theorem locate?_of_plain (built : t.Built) {name : Alias} (own : name ∈ t.plainAliases) :
    ∃ f, t.field? name = some f ∧ t.locate? s name = some (.native f) := by
  obtain ⟨f, member, named, plain⟩ := mem_plainAliases_iff.1 own
  exact ⟨f, built.field?_eq_some_iff.2 ⟨member, named⟩,
    locate?_eq_native_iff.2 (built.plainField?_eq_some_iff.2 ⟨member, named, plain⟩)⟩

theorem answer?_of_unexposed {e : Entry} {item : AggregateItem}
    (unexposed : s.lookupDimension item.field = none) :
    t.answer? s o e item = t.direct? e item.field item := by
  rw [answer?_eq, substituted?, joined?, unexposed, Option.filter_none, Option.bind_none,
    Option.bind_none, Option.none_or, Option.or_none]

/-- The decisions about an aggregate item that no dimension exposes. -/
theorem direct?_of_record (alone : t.Alone s r) {p : AggregateItem × AggregateRecord}
    (listed : p ∈ (t.course s o r).records) :
    t.direct? (t.selected s r) p.1.field p.1 = some p.2 := by
  obtain ⟨member, found⟩ := mem_answered_iff.1 listed
  rwa [answer?_of_unexposed (alone.aggregate p.1 member)] at found

/-- Every aggregate item is answered from the column with its alias. -/
theorem exists_column_of_record (alone : t.Alone s r) {p : AggregateItem × AggregateRecord}
    (listed : p ∈ (t.course s o r).records) :
    ∃ f, t.field? p.1.field = some f ∧
      (p.2 = .inPlace ⟨f.column, p.1.calculation, p.1.field⟩ ∨
        p.2 = .ready ⟨f.column, p.1.field, some p.1.calculation⟩) := by
  obtain ⟨f, held, ⟨-, shape⟩ | ⟨-, -, shape⟩ | ⟨-, -, -, shape⟩⟩ :=
    direct?_eq_some_iff.1 (direct?_of_record alone listed)
  · exact ⟨f, held, .inl shape⟩
  · exact ⟨f, held, .inr shape⟩
  · exact ⟨f, held, .inl shape⟩

theorem course_joins_of_alone (built : t.Built) (alone : t.Alone s r) :
    (t.course s o r).joins = [] := by
  have native : ∀ name ∈ t.plainAliases, ∀ source, t.locate? s name = some source →
      source.join? = none := by
    intro name own source found
    obtain ⟨f, -, located⟩ := locate?_of_plain built own
    rw [located] at found
    obtain rfl := Option.some.inj found
    rfl
  rw [Course.joins, List.append_eq_nil_iff, List.append_eq_nil_iff, List.filterMap_eq_nil_iff,
    List.filterMap_eq_nil_iff, List.filterMap_eq_nil_iff]
  refine ⟨⟨?_, ?_⟩, ?_⟩
  · intro p listed
    obtain ⟨member, found⟩ := mem_answered_iff.1 listed
    exact native p.1 (alone.select p.1 member) p.2 found
  · intro p listed
    exact join?_of_direct? (direct?_of_record alone listed)
  · intro p listed
    obtain ⟨member, found⟩ := mem_answered_iff.1 listed
    exact native p.1.field (alone.filter p.1 member) p.2 found

/-- The scope of a row with which nothing is joined. -/
def scopeOf (t : FactTable) (row : Record V) : Scope V :=
  Function.update (fun _ _ => none) t.name.shortName row

theorem value_column {name : Alias} {f : FactField} (found : t.field? name = some f)
    (row : Record V) :
    (Expr.ofTable t.name.shortName f.column).value (t.scopeOf row) = t.byAlias row name := by
  rw [Expr.value_ofTable, scopeOf, Function.update_self, byAlias, found]
  rfl

theorem value_native (built : t.Built) {name : Alias} (own : name ∈ t.plainAliases)
    {source : FieldSource} (found : t.locate? s name = some source) (row : Record V) :
    (source.expr t.name.shortName).value (t.scopeOf row) = t.byAlias row name := by
  obtain ⟨f, held, located⟩ := locate?_of_plain built own
  rw [located] at found
  obtain rfl := Option.some.inj found
  exact value_column held row

variable [Domain V] {db : Database V}

theorem joinedScopes_of_alone (built : t.Built) (alone : t.Alone s r) (literal : Literals V) :
    (((t.course s o r).entry t).toQuery t.name).joinedScopes literal db =
      (db t.name : Multiset (Record V)).map t.scopeOf := by
  have none : ((t.course s o r).entry t).joinTables.entries = [] := by
    refine List.isEmpty_iff.1 (Keyed.isEmpty_iff.2 fun table => ?_)
    rw [Course.get?_joinTables, course_joins_of_alone built alone]
    rfl
  have joins : (((t.course s o r).entry t).toQuery t.name).joins = [] := by
    show ((t.course s o r).entry t).joins _ = []
    rw [Entry.joins, none]
    rfl
  rw [Query.joinedScopes, joins]
  rfl

/-- The columns of the query stand in the order of the request if all aggregates are of one
kind. -/
theorem toQuery_select_of_alone (built : t.Built) (alone : t.Alone s r)
    (kind : (∀ p ∈ (t.course s o r).records, p.2.isReady = true) ∨
      ∀ p ∈ (t.course s o r).records, p.2.isInPlace = true) :
    (((t.course s o r).entry t).toQuery t.name).select =
      (t.course s o r).selects.map (fun p => p.2.item t.name.shortName p.1) ++
        (t.course s o r).records.map fun p => p.2.item t.name.shortName := by
  rw [(t.course s o r).toQuery_select_of_joins t (course_joins_of_alone built alone)]
  apply congrArg _
  rcases kind with ready | inPlace
  · have computed : (t.course s o r).records.filter (·.2.isInPlace) = [] := by
      apply List.filter_eq_nil_iff.2
      intro p member
      have stored := ready p member
      cases shape : p.2 with
      | ready _ => exact Bool.false_ne_true
      | inPlace _ | joined _ _ _ => rw [shape] at stored; cases stored
    rw [List.filter_eq_self.2 ready, computed, List.map_nil, List.append_nil]
  · have stored : (t.course s o r).records.filter (·.2.isReady) = [] := by
      apply List.filter_eq_nil_iff.2
      intro p member
      have computed := inPlace p member
      cases shape : p.2 with
      | inPlace _ => exact Bool.false_ne_true
      | ready _ | joined _ _ _ => rw [shape] at computed; cases computed
    rw [List.filter_eq_self.2 inPlace, stored, List.map_nil, List.nil_append]

/-- If every aggregate is computed from a column of the table, the query has the answer to the
request. -/
theorem answer_of_isInPlace (built : t.Built) (alone : t.Alone s r) (serves : t.Serves s o r)
    (inPlace : ∀ p ∈ (t.course s o r).records, p.2.isInPlace = true) (literal : Literals V) :
    (((t.course s o r).entry t).toQuery t.name).answer literal db =
      r.answer literal ((db t.name : Multiset (Record V)).map t.byAlias) := by
  have columns : ∀ p ∈ (t.course s o r).records,
      ∃ f, t.field? p.1.field = some f ∧
        p.2 = .inPlace ⟨f.column, p.1.calculation, p.1.field⟩ := by
    intro p listed
    have computed := inPlace p listed
    obtain ⟨f, held, shape | shape⟩ := exists_column_of_record alone listed
    · exact ⟨f, held, shape⟩
    · rw [shape] at computed
      cases computed
  have same : ((((t.course s o r).entry t).toQuery t.name).answer literal db).map id =
      (r.answer literal ((db t.name : Multiset (Record V)).map t.byAlias)).map id := by
    refine ((t.course s o r).realizes t serves.map_fst_selects serves.map_fst_filters
      serves.map_fst_records ?_ ?_ (joinedScopes_of_alone built alone literal) ?_ ?_ ?_).answer_eq
    · intro p listed
      obtain ⟨f, -, shape⟩ := columns p listed
      rw [shape]
      rfl
    · intro cell
      rw [toQuery_select_of_alone built alone (.inr inPlace)]
    · intro p listed row _
      obtain ⟨member, found⟩ := mem_answered_iff.1 listed
      exact value_native built (alone.select p.1 member) found row
    · intro p listed row _
      obtain ⟨member, found⟩ := mem_answered_iff.1 listed
      exact value_native built (alone.filter p.1 member) found row
    · intro p listed group _
      obtain ⟨f, held, shape⟩ := columns p listed
      rw [shape]
      exact congrArg _ (Multiset.map_congr rfl fun row _ => value_column held row)
  rwa [Multiset.map_id, Multiset.map_id] at same

/-- If every aggregate is stored, the query hands out the rows that pass the filters. -/
theorem answer_of_isReady (built : t.Built) (alone : t.Alone s r) (serves : t.Serves s o r)
    (ready : ∀ p ∈ (t.course s o r).records, p.2.isReady = true) (literal : Literals V) :
    (((t.course s o r).entry t).toQuery t.name).answer literal db =
      (((db t.name : Multiset (Record V)).map t.byAlias).filter
        fun row => r.keeps literal row).map fun row =>
          r.select.map (fun name => (some name, row name)) ++ r.aggregate.map fun item =>
            (some (item.field.withCalculation item.calculation), row item.field) := by
  have columns : ∀ p ∈ (t.course s o r).records,
      ∃ f, t.field? p.1.field = some f ∧
        p.2 = .ready ⟨f.column, p.1.field, some p.1.calculation⟩ := by
    intro p listed
    have stored := ready p listed
    obtain ⟨f, held, shape | shape⟩ := exists_column_of_record alone listed
    · rw [shape] at stored
      cases stored
    · exact ⟨f, held, shape⟩
  have select := toQuery_select_of_alone built alone (.inl ready)
  have flat : (((t.course s o r).entry t).toQuery t.name).select.any
      (·.expr.isAggregate) = false := by
    rw [select, List.any_append, List.any_map, List.any_map, Bool.or_eq_false_iff]
    refine ⟨List.any_eq_false.2 fun p _ => ?_, List.any_eq_false.2 fun p listed => ?_⟩
    · rw [Function.comp_apply]
      cases p.2 <;> exact Bool.false_ne_true
    · obtain ⟨f, -, shape⟩ := columns p listed
      rw [Function.comp_apply, shape]
      exact Bool.false_ne_true
  have filtered : ∀ p ∈ (t.course s o r).filters, ∀ row ∈ db t.name,
      (p.2.expr t.name.shortName).value (t.scopeOf row) = t.byAlias row p.1.field := by
    intro p listed row _
    obtain ⟨member, found⟩ := mem_answered_iff.1 listed
    exact value_native built (alone.filter p.1 member) found row
  rw [(((t.course s o r).entry t).groupsRest_toQuery t.name).answer_of_plain flat,
    (t.course s o r).scopes_toQuery t serves.map_fst_filters
      (joinedScopes_of_alone built alone literal) filtered,
    Multiset.filter_map, Multiset.map_map, Multiset.map_map]
  apply Multiset.map_congr rfl
  intro row _
  rw [Function.comp_apply, Function.comp_apply, select, List.map_append, List.map_map,
    List.map_map]
  rw [← serves.map_fst_selects, ← serves.map_fst_records, List.map_map, List.map_map]
  refine congrArg₂ (· ++ ·) ?_ ?_
  · refine List.map_congr_left fun p listed => congrArg (Prod.mk (some p.1)) ?_
    obtain ⟨member, found⟩ := mem_answered_iff.1 listed
    exact value_native built (alone.select p.1 member) found row
  · apply List.map_congr_left
    intro p listed
    obtain ⟨f, held, shape⟩ := columns p listed
    rw [Function.comp_apply, shape]
    exact congrArg (Prod.mk _) (value_column held row)

end FactTable

end StarPlan
