import StarPlan.Proofs.Plan.Resolves
import StarPlan.Proofs.Plan.Scopes
import StarPlan.Proofs.Plan.Survival

/-!
# In which way items are answered

A table answers an item by itself where it can. A field that it holds in a plain column is taken
from there, even if a dimension exposes the same alias; a column of stored results keeps no field
from being joined.

For an aggregate item, counting the key of a dimension comes before the table's own column, and a
join comes last. The conditions are those under which a table survives, and exactly one of the
three ways is taken (`FactTable.Resolves.cases`). `Schema.answers_by_priority` says what this
means for an entry.
-/

namespace StarPlan

/-- The column under which a dimension exposes an alias, if it does. -/
def Schema.columnIn? (s : Schema) (table : TableName) (name : Alias) : Option String :=
  (s.lookupDimension name).bind fun d => under table (d.table.name, d.field.column)

/-- What an entry holds for aggregate items are these records, each as often as it is listed. -/
structure Entry.Records (e : Entry) (records : List AggregateRecord) : Prop where
  ready : e.selects.filter (·.ready.isSome) = records.filterMap (·.ready?)
  inPlace : e.aggregations = records.filterMap (·.inPlace?)
  joined : ∀ table, e.joinAggregations.itemsOf table =
    records.filterMap fun record => record.joined?.bind (under table)

theorem map_under {α β : Type} (f : α → β) (name other : String) (x : α) :
    (under name (other, x)).map f = under name (other, f x) := by
  rw [under, under]
  split <;> rfl

namespace FactTable

variable {s : Schema} {o : Options} {t : FactTable} {r : Request} {item : AggregateItem}
variable {strategy : Strategy} {record : AggregateRecord}

/-! A plain column comes before a dimension. -/

/-- What is collected from the fields that are located in a dimension. -/
theorem filterMap_located {α β : Type} (built : t.Built) (name : α → Alias) {l : List α}
    (served : ∀ x ∈ l, ∃ source, t.locate? s (name x) = some source)
    (view : α → FieldSource → Option (TableName × β)) (make : α → String → β)
    (native : ∀ x f, view x (.native f) = none)
    (joined : ∀ x d keys, view x (.joined d keys) = some (d.table.name, make x d.field.column))
    (table : TableName) :
    ((answered (fun x => t.locate? s (name x)) l).filterMap fun p =>
        (view p.1 p.2).bind (under table)) =
      (l.filter (name · ∉ t.plainAliases)).filterMap fun x =>
        (s.columnIn? table (name x)).map (make x) := by
  rw [filterMap_answered fun x source => (view x source).bind (under table), List.filterMap_filter]
  -- A plain alias is located in the table itself, any other one in a dimension.
  refine List.filterMap_congr fun x listed => ?_
  obtain ⟨f | ⟨d, keys⟩, located⟩ := served x listed
  · have own : name x ∈ t.plainAliases := by
      rw [← built.isSome_plainField?_iff, locate?_eq_native_iff.1 located]
      rfl
    rw [located, Option.bind_some, native]
    simp [own]
  · obtain ⟨absent, looked, -⟩ := locate?_eq_joined_iff.1 located
    have other : name x ∉ t.plainAliases := by
      rw [← built.isSome_plainField?_iff, absent]
      exact Bool.false_ne_true
    rw [located, Option.bind_some, joined, Option.bind_some, Schema.columnIn?, looked,
      Option.bind_some, map_under]
    simp [other]

/-! The ways to answer an aggregate item exclude each other. -/

/-- An aggregate item is answered by counting a key if that can be done, else by the table's own
column of the alias if that can be done, else by a join. -/
theorem Resolves.cases (sound : s.Sound) (member : t ∈ s.facts.values) (serves : t.Serves s o r)
    (resolves : t.Resolves s o r item strategy record) :
    strategy = .serviceKeySubstitution ∧ t.CanCountKey s o r.select item ∧
        t.substituted? s o (t.selected s r) item = some record ∨
      strategy = .directField ∧ ¬ t.CanCountKey s o r.select item ∧
        t.Direct r.select item.field item.calculation ∧
        t.direct? (t.selected s r) item.field item = some record ∨
      strategy = .joinAggregation ∧ ¬ t.CanCountKey s o r.select item ∧
        ¬ t.Direct r.select item.field item.calculation ∧ t.joined? s item = some record := by
  obtain ⟨-, first⟩ := (resolves_iff sound member serves).1 resolves
  have built := sound.fact member
  have grain := isAtGrain_selected_iff built serves.select
  rw [← exists_direct?_iff built grain, ← exists_substituted?_iff sound built grain]
  rcases first?_order_eq_some_iff.1 first with
    ⟨rfl, counted⟩ | ⟨rfl, uncounted, direct⟩ | ⟨rfl, uncounted, indirect, joined⟩
  · exact .inl ⟨rfl, ⟨record, counted⟩, counted⟩
  · exact .inr (.inl ⟨rfl, by simp [uncounted], ⟨record, direct⟩, direct⟩)
  · exact .inr (.inr ⟨rfl, by simp [uncounted], by simp [indirect], joined⟩)

theorem Resolves.strategy_iff (sound : s.Sound) (member : t ∈ s.facts.values)
    (serves : t.Serves s o r) (resolves : t.Resolves s o r item strategy record) :
    (strategy = .serviceKeySubstitution ↔ t.CanCountKey s o r.select item) ∧
      (strategy = .directField ↔ ¬ t.CanCountKey s o r.select item ∧
        t.Direct r.select item.field item.calculation) := by
  rcases resolves.cases sound member serves with
    ⟨rfl, counts, -⟩ | ⟨rfl, uncounted, direct, -⟩ | ⟨rfl, uncounted, indirect, -⟩
  · exact ⟨iff_of_true rfl counts, iff_of_false nofun fun both => both.1 counts⟩
  · exact ⟨iff_of_false nofun uncounted, iff_of_true rfl ⟨uncounted, direct⟩⟩
  · exact ⟨iff_of_false nofun uncounted, iff_of_false nofun fun both => indirect both.2⟩

theorem Resolves.unique (sound : s.Sound) (member : t ∈ s.facts.values) (serves : t.Serves s o r)
    (resolves : t.Resolves s o r item strategy record) {strategy' : Strategy}
    {record' : AggregateRecord} (resolves' : t.Resolves s o r item strategy' record') :
    strategy' = strategy ∧ record' = record := by
  obtain ⟨-, first⟩ := (resolves_iff sound member serves).1 resolves
  obtain ⟨-, first'⟩ := (resolves_iff sound member serves).1 resolves'
  exact Prod.mk.inj (Option.some.inj (first'.symm.trans first))

/-- An aggregate that is joined for answers the item that it reports. -/
theorem exists_resolves_of_joined (sound : s.Sound) (member : t ∈ s.facts.values)
    (serves : t.Serves s o r) {table : TableName} {a : Aggregation}
    (listed : a ∈ ((t.course s o r).entry t).joinAggregations.itemsOf table) :
    ∃ strategy keys, t.Resolves s o r a.asked strategy (.joined table keys a) := by
  rw [Course.itemsOf_joinAggregations] at listed
  obtain ⟨⟨item, record⟩, answered, shown⟩ := List.mem_filterMap.1 listed
  cases record with
  | ready _ | inPlace _ => cases shown
  | joined table' keys a' =>
      obtain ⟨rfl, same⟩ := Option.ite_none_right_eq_some.1 shown
      obtain rfl := Option.some.inj same
      obtain rfl := Option.some.inj (asked?_of_answer? (mem_answered_iff.1 answered).2)
      obtain ⟨strategy, resolves⟩ := (exists_resolves_iff sound member serves).2 answered
      exact ⟨strategy, keys, resolves⟩

/-- Where a key may be counted and can be, its column is counted, under the requested field. -/
theorem Resolves.record_of_canCountKey (sound : s.Sound) (member : t ∈ s.facts.values)
    (serves : t.Serves s o r) (resolves : t.Resolves s o r item strategy record)
    (counts : t.CanCountKey s o r.select item) :
    ∃ d, s.Exposes item.field d ∧ ∃ f ∈ t.fields, f.name = d.serviceKey.name ∧
      (record = .inPlace ⟨f.column, item.calculation, item.field⟩ ∨
        record = .ready ⟨f.column, item.field, some item.calculation⟩) := by
  rcases resolves.cases sound member serves with
    ⟨-, -, substituted⟩ | ⟨-, uncounted, -⟩ | ⟨-, uncounted, -⟩
  · obtain ⟨d, looked, -, counted⟩ := substituted?_eq_some_iff.1 substituted
    obtain ⟨f, held, shape⟩ := direct?_eq_some_iff.1 counted
    obtain ⟨own, named⟩ := (sound.fact member).field?_eq_some_iff.1 held
    refine ⟨d, sound.lookupDimension_eq_some_iff.1 looked, f, own, named, ?_⟩
    rcases shape with ⟨-, inPlace⟩ | ⟨-, -, ready⟩ | ⟨-, -, -, inPlace⟩
    · exact .inl inPlace
    · exact .inr ready
    · exact .inl inPlace
  · exact absurd counts uncounted
  · exact absurd counts uncounted

theorem Resolves.join?_ne_none_iff (sound : s.Sound) (member : t ∈ s.facts.values)
    (serves : t.Serves s o r) (resolves : t.Resolves s o r item strategy record) :
    record.join? ≠ none ↔ ¬ t.CanCountKey s o r.select item ∧
      ¬ t.Direct r.select item.field item.calculation := by
  rcases resolves.cases sound member serves with
    ⟨-, counts, substituted⟩ | ⟨-, -, direct, found⟩ | ⟨-, uncounted, indirect, joined⟩
  · obtain ⟨d, -, -, counted⟩ := substituted?_eq_some_iff.1 substituted
    exact iff_of_false (not_not_intro (join?_of_direct? counted)) fun neither => neither.1 counts
  · exact iff_of_false (not_not_intro (join?_of_direct? found)) fun neither => neither.2 direct
  · obtain ⟨d, keys, -, -, rfl⟩ := joined?_eq_some_iff.1 joined
    exact iff_of_true (Option.some_ne_none _) ⟨uncounted, indirect⟩

/-- The entry of a course holds the records of the course, item by item. -/
theorem entry_records :
    ((t.course s o r).entry t).Records ((t.course s o r).records.map (·.2)) where
  ready := by
    have plain : ((t.course s o r).selects.filterMap fun p => p.2.ownSelect? p.1).filter
        (·.ready.isSome) = [] := by
      rw [List.filter_eq_nil_iff]
      intro select listed
      obtain ⟨⟨field, f | ⟨d, keys⟩⟩, -, shown⟩ := List.mem_filterMap.1 listed
      · rw [← Option.some.inj shown]
        exact Bool.false_ne_true
      · cases shown
    have stored : ((t.course s o r).records.filterMap (·.2.ready?)).filter (·.ready.isSome) =
        (t.course s o r).records.filterMap (·.2.ready?) := by
      rw [List.filter_eq_self]
      intro select listed
      exact Option.isSome_iff_ne_none.2 (ready_ne_none_of_mem listed)
    rw [Course.entry_selects, List.filter_append, plain, stored, List.filterMap_map]
    rfl
  inPlace := by
    rw [Course.entry_aggregations, List.filterMap_map]
    rfl
  joined table := by
    rw [Course.itemsOf_joinAggregations, List.filterMap_map]
    rfl

end FactTable

/-! Shelves that carry a label under the alias of the games that stand on them, and a count under
the alias of their genre. -/

namespace Games

def shelves : FactTable where
  name := "shop.shelves"
  isBase := false
  fields :=
    [.serviceKey "fk_game" "game_key", .named .dimension "label" "game" "Label",
      .calculated "genres" "genre" .count none]

def shop : Schema where
  facts := ⟨[(shelves.name, shelves)], by decide⟩
  dimensions := star.dimensions

theorem shelves_built : shelves.Built :=
  (FactTable.Built.new shelves.name).addFields shelves.fields rfl

theorem shop_built : shop.Built := by
  refine .addFact ?_ shelves_built (s := { shop with facts := .empty }) rfl
  exact .addDimension .empty game_built rfl

end Games

namespace Schema

variable {s : Schema} {o : Options} {t : FactTable} {r : Request} {e : Entry}

/-- A surviving table joins for the other aliases only, never for those of its plain columns. It
holds one record for each aggregate item: over the key of the dimension if that may be counted and
can be, else over its own column if it can, and only then over a joined column. -/
theorem answers_by_priority (built : s.Built) (member : t ∈ s.facts.values)
    (survives : (s.plan r o).live.get? t.name = some e) :
    (∀ table,
      e.joinSelects.itemsOf table = ((r.select.filter (· ∉ t.plainAliases)).filterMap fun field =>
        (s.columnIn? table field).map (⟨·, field⟩)) ∧
      e.joinFilters.itemsOf table =
        ((r.filter.filter (·.field ∉ t.plainAliases)).filterMap fun item =>
          (s.columnIn? table item.field).map (⟨·, ⟨item.op, item.condition⟩⟩)) ∧
      ∀ a ∈ e.joinAggregations.itemsOf table, a.field ∉ t.plainAliases) ∧
    (∃ records, e.Records records ∧ List.Forall₂ (fun item record =>
      ∃ strategy, t.Resolves s o r item strategy record ∧ ∀ strategy' record',
        t.Resolves s o r item strategy' record' → strategy' = strategy ∧ record' = record)
      r.aggregate records) ∧
    ∀ item strategy record, t.Resolves s o r item strategy record →
      (strategy = .serviceKeySubstitution ↔ t.CanCountKey s o r.select item) ∧
      (strategy = .directField ↔ ¬ t.CanCountKey s o r.select item ∧
        t.Direct r.select item.field item.calculation) ∧
      (record.join? ≠ none ↔ ¬ t.CanCountKey s o r.select item ∧
        ¬ t.Direct r.select item.field item.calculation) ∧
      (t.CanCountKey s o r.select item →
        (∃ d, s.Exposes item.field d ∧ ∃ f ∈ t.fields, f.name = d.serviceKey.name ∧
          (record = .inPlace ⟨f.column, item.calculation, item.field⟩ ∨
            record = .ready ⟨f.column, item.field, some item.calculation⟩)) ∧
        ∀ table, ∀ a ∈ e.joinAggregations.itemsOf table, a.asked ≠ item) := by
  have sound := built.sound
  obtain ⟨serves, rfl⟩ := (plan_live_eq_some_iff sound member).1 survives
  have own := sound.fact member
  refine ⟨fun table => ⟨?_, ?_, ?_⟩, ⟨_, FactTable.entry_records, ?_⟩, ?_⟩
  · rw [Course.itemsOf_joinSelects]
    exact FactTable.filterMap_located own id serves.select (fun field => (·.joinedSelect? field))
      (fun field column => ⟨column, field⟩) (fun _ _ => rfl) (fun _ _ _ => rfl) table
  · rw [Course.itemsOf_joinFilters]
    exact FactTable.filterMap_located own FilterItem.field serves.filter
      (fun item => (·.joinedFilter? item)) (fun item column => ⟨column, ⟨item.op, item.condition⟩⟩)
      (fun _ _ => rfl) (fun _ _ _ => rfl) table
  · intro a listed plain
    obtain ⟨strategy, keys, resolves⟩ :=
      FactTable.exists_resolves_of_joined sound member serves listed
    obtain ⟨-, indirect⟩ :=
      (resolves.join?_ne_none_iff sound member serves).1 (Option.some_ne_none _)
    obtain ⟨f, held, named, isPlain⟩ := FactTable.mem_plainAliases_iff.1 plain
    exact indirect ⟨f, held, named, .inl isPlain⟩
  · have items : (t.course s o r).records.map (·.1) = r.aggregate :=
      map_fst_answered serves.aggregate
    -- Items and records are the two sides of one list.
    rw [← items, List.forall₂_map_left_iff, List.forall₂_map_right_iff, List.forall₂_same]
    intro p answered
    obtain ⟨strategy, resolves⟩ :=
      (FactTable.exists_resolves_iff sound member serves).2 answered
    exact ⟨strategy, resolves, fun _ _ other => resolves.unique sound member serves other⟩
  · intro item strategy record resolves
    obtain ⟨counting, direct⟩ := resolves.strategy_iff sound member serves
    refine ⟨counting, direct, resolves.join?_ne_none_iff sound member serves, fun counts =>
      ⟨resolves.record_of_canCountKey sound member serves counts, ?_⟩⟩
    -- A joined aggregate for the item would have come about although its key can be counted.
    rintro table a listed rfl
    obtain ⟨strategy, keys, joined⟩ :=
      FactTable.exists_resolves_of_joined sound member serves listed
    exact ((joined.join?_ne_none_iff sound member serves).1 (Option.some_ne_none _)).1 counts

/-- The shelves have a column of their own for the alias of the games. It is selected, filtered by
and aggregated, but not counted; the genre is joined for, although a column stores its count. -/
theorem answers_by_priority_games :
    let r : Request :=
      ⟨["game"], [⟨"game", .countDistinct⟩, ⟨"game", .max⟩, ⟨"genre", .max⟩],
        [⟨"game", .ne, "'chess'"⟩]⟩
    ∃ e, (Games.shop.plan r .standard).live.get? Games.shelves.name = some e ∧
      (∀ table, e.joinSelects.itemsOf table = [] ∧ e.joinFilters.itemsOf table = []) ∧
      Games.shelves.Resolves Games.shop .standard r ⟨"game", .countDistinct⟩
        .serviceKeySubstitution (.inPlace ⟨"fk_game", .countDistinct, "game"⟩) ∧
      Games.shelves.Direct r.select "game" .countDistinct ∧
      ∀ table, ∀ a ∈ e.joinAggregations.itemsOf table, a.asked ≠ ⟨"game", .countDistinct⟩ := by
  intro r
  have member : Games.shelves ∈ Games.shop.facts.values := by decide
  have live : (Games.shop.plan r .standard).live.contains Games.shelves.name = true := by decide
  obtain ⟨e, survives⟩ := Keyed.contains_iff.1 live
  have resolves : Games.shelves.Resolves Games.shop .standard r ⟨"game", .countDistinct⟩
      .serviceKeySubstitution (.inPlace ⟨"fk_game", .countDistinct, "game"⟩) :=
    ⟨[], _, (Games.shelves.selected Games.shop r).addFilter "label" ⟨.ne, "'chess'"⟩, rfl,
      by decide, by decide⟩
  obtain ⟨own, -, ways⟩ := answers_by_priority Games.shop_built member survives
  obtain ⟨counted, -, -, apart⟩ := ways _ _ _ resolves
  exact ⟨e, survives, fun table => ⟨(own table).1, (own table).2.1⟩, resolves,
    ⟨.named .dimension "label" "game" "Label", by decide, rfl, .inl rfl⟩,
    (apart (counted.1 rfl)).2⟩

end Schema

end StarPlan
