import StarPlan.Proofs.Plan.Resolves
import StarPlan.Proofs.Plan.Scopes

/-!
# What a planned query refers to

A planned query joins a dimension exactly if some item of the request is answered through it
(`FactTable.Through`). It joins it once, by the key columns of the two tables, and these are the
keys of every group of the entry that needs the dimension. All other columns of the query belong
to the fact table or to a joined dimension and are qualified by its short name
(`Schema.joins_iff_through`).
-/

namespace StarPlan

open Sql

/-- The columns that an expression names, each with what qualifies it. -/
def Sql.Expr.columns : Expr → List (Option String × String)
  | column table name => [(table, name)]
  | raw _ => []
  | aggregate _ operand => operand.columns
  | binary _ left right => left.columns ++ right.columns

namespace Entry

/-- Some group of the entry, for whatever purpose, joins a dimension by these keys. -/
def GroupsBy (e : Entry) (table : TableName) (keys : JoinKeys) : Prop :=
  e.joinSelects.keysOf table = some keys ∨ e.joinAggregations.keysOf table = some keys ∨
    e.joinFilters.keysOf table = some keys

theorem joins_toQuery (e : Entry) (table : TableName) :
    (e.toQuery table).joins = e.joinTables.entries.map fun p => p.2.join table.shortName p.1 :=
  rfl

/-- What a query groups by, it selects. -/
theorem mem_select_of_mem_groupBy {e : Entry} {table : TableName} {expr : Expr}
    (listed : expr ∈ (e.toQuery table).groupBy) :
    ∃ item ∈ (e.toQuery table).select, item.expr = expr := by
  have grouped : expr ∈ if e.hasAggregation then
      (e.plainItems table.shortName ++ e.joinedItems).map (·.expr) else [] := listed
  split at grouped
  · obtain ⟨item, member, rfl⟩ := List.mem_map.1 grouped
    refine ⟨item, ?_, rfl⟩
    rw [toQuery_select]
    rcases List.mem_append.1 member with plain | joined
    · exact List.mem_append_left _ (List.mem_append_left _ (List.mem_append_left _ plain))
    · exact List.mem_append_left _ (List.mem_append_right _ joined)
  · cases grouped

end Entry

theorem Course.mem_joins_of_groupsBy {c : Course} {t : FactTable} {table : TableName}
    {keys : JoinKeys} (groups : (c.entry t).GroupsBy table keys) : (table, keys) ∈ c.joins := by
  rw [Entry.GroupsBy, keysOf_joinSelects, keysOf_joinAggregations, keysOf_joinFilters] at groups
  rcases groups with found | found | found
  · exact List.mem_append_left _ (List.mem_append_left _ (Keyed.mem_of_lookup found))
  · exact List.mem_append_left _ (List.mem_append_right _ (Keyed.mem_of_lookup found))
  · exact List.mem_append_right _ (Keyed.mem_of_lookup found)

namespace FactTable

/-- Planning a request for a table, an item is answered through a dimension: the field of a
select or filter item by the column of the dimension, an aggregate item by the strategy that
joins. -/
def Through (s : Schema) (o : Options) (t : FactTable) (r : Request) (d : DimensionTable) :
    RequestItem → Prop
  | .select field => field ∈ r.select ∧ ∃ found keys,
      t.locate? s field = some (.joined found keys) ∧ found.table = d
  | .filter item => item ∈ r.filter ∧ ∃ found keys,
      t.locate? s item.field = some (.joined found keys) ∧ found.table = d
  | .aggregate item => ∃ keys a,
      t.Resolves s o r item .joinAggregation (.joined d.name keys a)

/-- A column of the table, or of a dimension that a query joins, with the short name of its
table for a qualifier. -/
def Owns (s : Schema) (t : FactTable) (q : Query) (column : Option String × String) : Prop :=
  (∃ f ∈ t.fields, column = (some (TableName.shortName t.name), f.column)) ∨
    ∃ d ∈ s.dimensions.values, (∃ join ∈ q.joins, join.table = d.name) ∧
      ∃ f ∈ d.fields, column = (some (TableName.shortName d.name), f.column)

variable {s : Schema} {o : Options} {t : FactTable} {r : Request} {e : Entry} {q : Query}

/-! Which items lead to a dimension. -/

theorem Resolves.strategy_of_join {item : AggregateItem} {strategy : Strategy}
    {record : AggregateRecord} (resolves : t.Resolves s o r item strategy record)
    {p : TableName × JoinKeys} (joined : record.join? = some p) :
    strategy = .joinAggregation := by
  obtain ⟨_, _, e, -, -, resolved⟩ := resolves
  have first := Strategy.first?_eq_some_iff.2 resolved
  rcases first?_order_eq_some_iff.1 first with ⟨-, substituted⟩ | ⟨-, -, direct⟩ | ⟨last, -⟩
  · obtain ⟨d, -, -, counted⟩ := substituted?_eq_some_iff.1 substituted
    rw [join?_of_direct? counted] at joined
    cases joined
  · rw [join?_of_direct? direct] at joined
    cases joined
  · exact last

/-- A field whose source joins a dimension is found in this dimension. -/
theorem exists_found_of_join (sound : s.Sound) {d : DimensionTable}
    (listed : d ∈ s.dimensions.values) {name : Alias} {source : FieldSource} {keys : JoinKeys}
    (located : t.locate? s name = some source) (joined : source.join? = some (d.name, keys)) :
    ∃ found keys, t.locate? s name = some (.joined found keys) ∧ found.table = d := by
  cases source with
  | native f => cases joined
  | joined found keys' =>
      obtain ⟨-, looked, -⟩ := locate?_eq_joined_iff.1 located
      have exposed := sound.lookupDimension_eq_some_iff.1 looked
      have named : found.table.name = d.name := congrArg Prod.fst (Option.some.inj joined)
      exact ⟨found, keys', located, sound.dimension_eq_of_name exposed.table listed named⟩

theorem exists_through_iff (sound : s.Sound) (member : t ∈ s.facts.values)
    (serves : t.Serves s o r) {d : DimensionTable} (listed : d ∈ s.dimensions.values) :
    (∃ item, t.Through s o r d item) ↔ ∃ keys, (d.name, keys) ∈ (t.course s o r).joins := by
  constructor
  · rintro ⟨field | item | item, through⟩
    · obtain ⟨requested, found, keys, located, rfl⟩ := through
      exact ⟨keys, Course.mem_joins_iff.2
        (.inl ⟨(field, _), mem_answered_iff.2 ⟨requested, located⟩, rfl⟩)⟩
    · obtain ⟨requested, found, keys, located, rfl⟩ := through
      exact ⟨keys, Course.mem_joins_iff.2
        (.inr (.inr ⟨(item, _), mem_answered_iff.2 ⟨requested, located⟩, rfl⟩))⟩
    · obtain ⟨keys, a, resolves⟩ := through
      exact ⟨keys, Course.mem_joins_iff.2
        (.inr (.inl ⟨(item, _), resolves.mem_records sound member serves, rfl⟩))⟩
  · rintro ⟨keys, decided⟩
    rcases Course.mem_joins_iff.1 decided with
      ⟨⟨field, source⟩, answered, joined⟩ | ⟨⟨item, record⟩, answered, joined⟩ |
        ⟨⟨item, source⟩, answered, joined⟩
    · obtain ⟨requested, located⟩ := mem_answered_iff.1 answered
      exact ⟨.select field, requested, exists_found_of_join sound listed located joined⟩
    · obtain ⟨strategy, resolves⟩ := (exists_resolves_iff sound member serves).2 answered
      obtain rfl := resolves.strategy_of_join joined
      cases record with
      | ready _ | inPlace _ => cases joined
      | joined table keys' a =>
          obtain ⟨rfl, rfl⟩ := Prod.mk.inj (Option.some.inj joined)
          exact ⟨.aggregate item, keys', a, resolves⟩
    · obtain ⟨requested, located⟩ := mem_answered_iff.1 answered
      exact ⟨.filter item, requested, exists_found_of_join sound listed located joined⟩

/-- A join is by the columns that hold the key of the dimension on either side. -/
theorem Joins.exists_columns (built : t.Built) {table : TableName} {keys : JoinKeys}
    (joins : t.Joins s table keys) :
    ∃ d ∈ s.dimensions.values, ∃ key ∈ d.fields, ∃ f ∈ t.fields, key.isKey = true ∧
      f.name = key.name ∧ f.calculation = none ∧ table = d.name ∧
      keys = ⟨f.column, key.column⟩ := by
  obtain ⟨_, d, exposed, rfl, held⟩ := joins
  obtain ⟨f, own, named, plain, rfl⟩ := (joinKeys?_eq_some_iff built).1 held
  exact ⟨d.table, exposed.table, d.serviceKey, exposed.key, f, own, exposed.isKey, named, plain,
    rfl, rfl⟩

/-! Which columns the answers to items name. -/

theorem owns_of_locate? (sound : s.Sound) (built : t.Built) {name : Alias}
    {source : FieldSource} (located : t.locate? s name = some source)
    (joined : ∀ p, source.join? = some p → ∃ join ∈ q.joins, join.table = p.1) :
    ∀ column ∈ (source.expr t.name.shortName).columns, t.Owns s q column := by
  intro column named
  cases source with
  | native f =>
      obtain ⟨own, -⟩ := built.plainField?_eq_some_iff.1 (locate?_eq_native_iff.1 located)
      exact .inl ⟨f, own, List.mem_singleton.1 named⟩
  | joined d keys =>
      obtain ⟨-, looked, -⟩ := locate?_eq_joined_iff.1 located
      have exposed := sound.lookupDimension_eq_some_iff.1 looked
      exact .inr ⟨d.table, exposed.table, joined _ rfl, d.field, exposed.field,
        List.mem_singleton.1 named⟩

theorem owns_of_direct? {lookup : Alias} {item : AggregateItem} {record : AggregateRecord}
    (found : t.direct? e lookup item = some record) :
    ∀ column ∈ (record.item t.name.shortName).expr.columns, t.Owns s q column := by
  intro column named
  obtain ⟨f, held, shape⟩ := direct?_eq_some_iff.1 found
  have own : f ∈ t.fields := List.mem_of_find?_eq_some held
  refine .inl ⟨f, own, ?_⟩
  rcases shape with ⟨-, rfl⟩ | ⟨-, -, rfl⟩ | ⟨-, -, -, rfl⟩ <;> exact List.mem_singleton.1 named

theorem owns_of_answer? (sound : s.Sound) {item : AggregateItem} {record : AggregateRecord}
    (found : t.answer? s o e item = some record)
    (joined : ∀ p, record.join? = some p → ∃ join ∈ q.joins, join.table = p.1) :
    ∀ column ∈ (record.item t.name.shortName).expr.columns, t.Owns s q column := by
  rw [answer?_eq, Option.or_eq_some_iff, Option.or_eq_some_iff] at found
  rcases found with (substituted | ⟨-, direct⟩) | ⟨-, byJoin⟩
  · obtain ⟨d, -, -, counted⟩ := substituted?_eq_some_iff.1 substituted
    exact owns_of_direct? counted
  · exact owns_of_direct? direct
  · obtain ⟨d, keys, looked, -, rfl⟩ := joined?_eq_some_iff.1 byJoin
    have exposed := sound.lookupDimension_eq_some_iff.1 looked
    intro column named
    exact .inr ⟨d.table, exposed.table, joined _ rfl, d.field, exposed.field,
      List.mem_singleton.1 named⟩

/-- The columns of the clauses other than the joins. -/
theorem owns_toQuery (sound : s.Sound) (built : t.Built) {expr : Expr}
    (listed : (∃ item ∈ (((t.course s o r).entry t).toQuery t.name).select, item.expr = expr) ∨
      expr ∈ (((t.course s o r).entry t).toQuery t.name).filters) :
    ∀ column ∈ expr.columns, t.Owns s (((t.course s o r).entry t).toQuery t.name) column := by
  have joined : ∀ p ∈ (t.course s o r).joins,
      ∃ join ∈ (((t.course s o r).entry t).toQuery t.name).joins, join.table = p.1 :=
    fun p decided => ⟨_, List.mem_map.2 ⟨p, (mem_joinTables_iff sound).2 decided, rfl⟩, rfl⟩
  rcases listed with ⟨item, listed, rfl⟩ | listed
  · have decided := (((t.course s o r).toQuery_select t t.name).mem_iff).1 listed
    rcases List.mem_append.1 decided with plain | aggregated
    · obtain ⟨p, member, rfl⟩ := List.mem_map.1 plain
      exact owns_of_locate? sound built (mem_answered_iff.1 member).2 fun join joins =>
        joined join (Course.mem_joins_iff.2 (.inl ⟨p, member, joins⟩))
    · obtain ⟨p, member, rfl⟩ := List.mem_map.1 aggregated
      exact owns_of_answer? sound (mem_answered_iff.1 member).2 fun join joins =>
        joined join (Course.mem_joins_iff.2 (.inr (.inl ⟨p, member, joins⟩)))
  · obtain ⟨p, member, rfl⟩ :=
      List.mem_map.1 (((t.course s o r).toQuery_filters t t.name).mem_iff.1 listed)
    intro column named
    -- The text that the column is compared with names no column.
    have left : column ∈ (p.2.expr t.name.shortName).columns :=
      (List.mem_append.1 named).resolve_right List.not_mem_nil
    exact owns_of_locate? sound built (mem_answered_iff.1 member).2 (fun join joins =>
      joined join (Course.mem_joins_iff.2 (.inr (.inr ⟨p, member, joins⟩)))) column left

end FactTable

namespace Schema

variable {s : Schema} {o : Options} {t : FactTable} {r : Request} {e : Entry}

/-- A query joins the dimensions through which items are answered, in the order of their names
and once each, by the columns that hold the key of the dimension on either side; all groups of
the entry agree on these. Its other clauses name columns of the fact table and of the joined
dimensions alone. -/
theorem joins_iff_through (built : s.Built) (member : t ∈ s.facts.values)
    (survives : (s.plan r o).live.get? t.name = some e) :
    (∀ d ∈ s.dimensions.values, (∃ join ∈ (e.toQuery t.name).joins, join.table = d.name) ↔
        ∃ item, t.Through s o r d item) ∧
      ((e.toQuery t.name).joins.map (·.table)).Pairwise (· < ·) ∧
      (∀ join ∈ (e.toQuery t.name).joins, ∃ d ∈ s.dimensions.values, ∃ key ∈ d.fields,
        ∃ f ∈ t.fields, key.isKey = true ∧ f.name = key.name ∧ f.calculation = none ∧
          join = ⟨d.name, [.binary .eq (.ofTable t.name.shortName f.column)
            (.ofTable (TableName.shortName d.name) key.column)]⟩ ∧
          ∀ keys, e.GroupsBy d.name keys → keys = ⟨f.column, key.column⟩) ∧
      ∀ expr ∈ (e.toQuery t.name).select.map (·.expr) ++ (e.toQuery t.name).filters ++
          (e.toQuery t.name).groupBy,
        ∀ column ∈ expr.columns, t.Owns s (e.toQuery t.name) column := by
  have sound := built.sound
  obtain ⟨serves, rfl⟩ := (plan_live_eq_some_iff sound member).1 survives
  refine ⟨?_, ?_, ?_, ?_⟩
  · intro d listed
    rw [FactTable.exists_through_iff sound member serves listed, Entry.joins_toQuery]
    constructor
    · rintro ⟨_, joined, named⟩
      obtain ⟨⟨table, keys⟩, decided, rfl⟩ := List.mem_map.1 joined
      obtain rfl : table = d.name := named
      exact ⟨keys, (FactTable.mem_joinTables_iff sound).1 decided⟩
    · rintro ⟨keys, decided⟩
      exact ⟨_, List.mem_map.2 ⟨_, (FactTable.mem_joinTables_iff sound).2 decided, rfl⟩, rfl⟩
  · rw [Entry.joins_toQuery, List.map_map]
    exact List.Pairwise.map _ (fun _ _ lt => lt) ((t.course s o r).entry t).joinTables.ordered
  · intro join joined
    obtain ⟨⟨table, keys⟩, entered, rfl⟩ := List.mem_map.1 joined
    have decided := (FactTable.mem_joinTables_iff sound).1 entered
    obtain ⟨d, listed, key, keyOf, f, own, isKey, named, plain, rfl, rfl⟩ :=
      (FactTable.joins_of_course sound decided).exists_columns (sound.fact member)
    refine ⟨d, listed, key, keyOf, f, own, isKey, named, plain, rfl, fun keys groups => ?_⟩
    exact FactTable.joins_course_unique sound _ (Course.mem_joins_of_groupsBy groups) _ decided rfl
  · intro expr listed
    apply FactTable.owns_toQuery sound (sound.fact member)
    rw [List.mem_append, List.mem_append, List.mem_map] at listed
    rcases listed with (selected | filtered) | grouped
    · exact .inl selected
    · exact .inr filtered
    · exact .inl (Entry.mem_select_of_mem_groupBy grouped)

/-- A selected, an aggregated and a filtered field need the dimension of games: one join. -/
theorem joins_iff_through_games :
    let r : Request := ⟨["genre"], [⟨"game", .max⟩], [⟨"genre", .ne, "'puzzle'"⟩]⟩
    ∃ e, (Games.star.plan r .standard).live.get? Games.sales.name = some e ∧
      Games.sales.Through Games.star .standard r Games.game
        (.filter ⟨"genre", .ne, "'puzzle'"⟩) ∧
      (∃ join ∈ (e.toQuery Games.sales.name).joins, join.table = Games.game.name) ∧
      ((e.toQuery Games.sales.name).joins.map (·.table)).Pairwise (· < ·) := by
  intro r
  have member : Games.sales ∈ Games.star.facts.values := by decide
  have listed : Games.game ∈ Games.star.dimensions.values := by decide
  have live : (Games.star.plan r .standard).live.contains Games.sales.name = true := by decide
  obtain ⟨e, survives⟩ := Keyed.contains_iff.1 live
  have through : Games.sales.Through Games.star .standard r Games.game
      (.filter ⟨"genre", .ne, "'puzzle'"⟩) :=
    ⟨by decide, ⟨Games.game, .named "genre_name" "genre" "Genre", .serviceKey "sk_game" "game_key"⟩,
      ⟨"fk_game", "sk_game"⟩, by decide, rfl⟩
  obtain ⟨needed, ordered, -⟩ := joins_iff_through Games.star_built member survives
  exact ⟨e, survives, through, (needed _ listed).2 ⟨_, through⟩, ordered⟩

end Schema

end StarPlan
