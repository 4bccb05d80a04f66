import StarPlan.Plan.Lowering
import StarPlan.Proofs.Plan.Resolves

/-!
# The use of stored aggregates

A column may store the results of a calculation over the rows that each of its rows stands for.
The planner hands such a column out as it is exactly if the select items leave the table at its
own grain and the stored calculation is the requested one; otherwise it aggregates the column
once more, if the table declares that the requested calculation may follow
(`Schema.ready_iff_atGrain`). A query that hands out a stored column selects every plain column
of the table and joins none for selection.

Which calculation may follow is for the table to declare. It need not be the stored one: a column
of counts can be summed up and published as a sum (`Schema.not_only_stored_calculation`). Without
such a declaration a stored column answers for nothing but what it stores
(`Schema.calculation_of_stored`).
-/

namespace StarPlan

open Sql

namespace Entry

variable {e : Entry} {select : PlainSelect}

theorem mem_plainItems (listed : select ∈ e.selects) (fact : String) :
    ⟨.ofTable fact select.column, some select.outputAlias⟩ ∈ e.plainItems fact :=
  List.mem_map.2 ⟨select, listed, rfl⟩

theorem mem_groupBy (listed : select ∈ e.selects) (aggregates : e.hasAggregation = true)
    (table : TableName) :
    .ofTable table.shortName select.column ∈ (e.toQuery table).groupBy := by
  show _ ∈ if _ then _ else _
  rw [if_pos aggregates]
  exact List.mem_map.2 ⟨_, List.mem_append_left _ (mem_plainItems listed _), rfl⟩

end Entry

namespace Course

variable {c : Course} {t : FactTable}

/-- A stored column that is handed out answers an aggregate item. -/
theorem exists_record_of_ready {select : PlainSelect} (listed : select ∈ (c.entry t).selects)
    (stored : select.ready ≠ none) : ∃ item, (item, .ready select) ∈ c.records := by
  rw [entry_selects, List.mem_append, List.mem_filterMap, List.mem_filterMap] at listed
  rcases listed with ⟨⟨field, f | ⟨d, keys⟩⟩, -, shape⟩ |
    ⟨⟨item, s | a | ⟨table, keys, a⟩⟩, member, shape⟩
  · obtain rfl := Option.some.inj shape
    exact absurd rfl stored
  · cases shape
  · obtain rfl := Option.some.inj shape
    exact ⟨item, member⟩
  · cases shape
  · cases shape

theorem exists_record_of_inPlace {a : Aggregation} (listed : a ∈ (c.entry t).aggregations) :
    ∃ item, (item, .inPlace a) ∈ c.records := by
  rw [entry_aggregations, List.mem_filterMap] at listed
  obtain ⟨⟨item, s | a' | ⟨table, keys, a'⟩⟩, member, shape⟩ := listed
  · cases shape
  · obtain rfl := Option.some.inj shape
    exact ⟨item, member⟩
  · cases shape

end Course

namespace FactTable

variable {s : Schema} {o : Options} {t : FactTable} {r : Request}

/-- At its own grain, the query of a table selects all of its plain columns. -/
theorem mem_toQuery_select_of_atGrain (built : t.Built) (grain : t.AtGrain r.select)
    {f : FactField} (own : f ∈ t.fields) (plain : f.calculation = none) :
    ⟨.ofTable t.name.shortName f.column, some f.name⟩ ∈
      (((t.course s o r).entry t).toQuery t.name).select := by
  have requested : f.name ∈ r.select :=
    grain.1 f.name (mem_plainAliases_iff.2 ⟨f, own, rfl, plain⟩)
  have located : t.locate? s f.name = some (.native f) :=
    locate?_eq_native_iff.2 (built.plainField?_eq_some_iff.2 ⟨own, rfl, plain⟩)
  have decided : (f.name, .native f) ∈ (t.course s o r).selects :=
    mem_answered_iff.2 ⟨requested, located⟩
  have listed : ⟨f.column, f.name, none⟩ ∈ ((t.course s o r).entry t).selects := by
    rw [Course.entry_selects]
    exact List.mem_append_left _ (List.mem_filterMap.2 ⟨_, decided, rfl⟩)
  exact List.mem_append_left _ (List.mem_append_left _ (List.mem_append_left _
    (Entry.mem_plainItems listed _)))

/-- What a stored column contributes to an answer. -/
theorem Resolves.record_of_stored (sound : s.Sound) (member : t ∈ s.facts.values)
    (serves : t.Serves s o r) {item : AggregateItem} {strategy : Strategy}
    {record : AggregateRecord} {f : FactField}
    (resolves : t.Resolves s o r item strategy record)
    (column : strategy.column? (.of s item o) t = some f) (stored : f.calculation ≠ none) :
    (record = .ready ⟨f.column, item.field, some item.calculation⟩ ↔
        t.AtGrain r.select ∧ f.calculation = some item.calculation) ∧
      (record ≠ .ready ⟨f.column, item.field, some item.calculation⟩ →
        record = .inPlace ⟨f.column, item.calculation, item.field⟩ ∧
          f.following = some item.calculation) := by
  rcases resolves.record_eq sound member serves column with
    ⟨plain, -⟩ | ⟨same, grain, rfl⟩ | ⟨-, apart, follows, rfl⟩
  · exact absurd plain stored
  · exact ⟨iff_of_true rfl ⟨grain, same⟩, fun other => absurd rfl other⟩
  · exact ⟨iff_of_false nofun fun ready => apart ready.symm, fun _ => ⟨rfl, follows⟩⟩

/-- A stored column is handed out at the grain of the table alone, and under the name of what it
stores. -/
theorem exists_stored_of_ready (sound : s.Sound) (member : t ∈ s.facts.values)
    (serves : t.Serves s o r) {select : PlainSelect}
    (listed : select ∈ ((t.course s o r).entry t).selects) (stored : select.ready ≠ none) :
    t.AtGrain r.select ∧ ∃ item strategy f, t.Resolves s o r item strategy (.ready select) ∧
      strategy.column? (.of s item o) t = some f ∧
      select = ⟨f.column, item.field, some item.calculation⟩ ∧
      f.calculation = some item.calculation := by
  obtain ⟨item, decided⟩ := Course.exists_record_of_ready listed stored
  obtain ⟨strategy, f, resolves, column⟩ :=
    exists_column_of_mem_records sound member serves decided rfl
  rcases resolves.record_eq sound member serves column with
    ⟨-, shape⟩ | ⟨same, grain, shape⟩ | ⟨-, -, -, shape⟩
  · cases shape
  · exact ⟨grain, item, strategy, f, resolves, column, AggregateRecord.ready.inj shape, same⟩
  · cases shape

/-- What is aggregated is a plain column, or results that the calculation may follow. -/
theorem exists_following_of_inPlace (sound : s.Sound) (member : t ∈ s.facts.values)
    (serves : t.Serves s o r) {a : Aggregation}
    (listed : a ∈ ((t.course s o r).entry t).aggregations) :
    ∃ item strategy f, t.Resolves s o r item strategy (.inPlace a) ∧
      strategy.column? (.of s item o) t = some f ∧
      a = ⟨f.column, item.calculation, item.field⟩ ∧
      (f.calculation = none ∨ f.following = some item.calculation) := by
  obtain ⟨item, decided⟩ := Course.exists_record_of_inPlace listed
  obtain ⟨strategy, f, resolves, column⟩ :=
    exists_column_of_mem_records sound member serves decided rfl
  rcases resolves.record_eq sound member serves column with
    ⟨plain, shape⟩ | ⟨-, -, shape⟩ | ⟨-, -, follows, shape⟩
  · exact ⟨item, strategy, f, resolves, column, AggregateRecord.inPlace.inj shape, .inl plain⟩
  · cases shape
  · exact ⟨item, strategy, f, resolves, column, AggregateRecord.inPlace.inj shape, .inr follows⟩

end FactTable

namespace Schema

variable {s : Schema} {o : Options} {t : FactTable} {r : Request} {e : Entry}

/-- A stored column is handed out exactly if the select items leave the table at its own grain
and the column stores what is asked for; otherwise it is aggregated by the calculation that may
follow. A query that hands out a stored column selects all plain columns of the table and none
of a dimension, and groups by the stored column if it aggregates anything. -/
theorem ready_iff_atGrain (built : s.Built) (member : t ∈ s.facts.values)
    (survives : (s.plan r o).live.get? t.name = some e) :
    (e.isAtGrain = true ↔ t.AtGrain r.select) ∧
      (∀ item strategy record f, t.Resolves s o r item strategy record →
        strategy.column? (.of s item o) t = some f → f.calculation ≠ none →
          e.Holds record ∧
          (record = .ready ⟨f.column, item.field, some item.calculation⟩ ↔
            t.AtGrain r.select ∧ f.calculation = some item.calculation) ∧
          (record ≠ .ready ⟨f.column, item.field, some item.calculation⟩ →
            record = .inPlace ⟨f.column, item.calculation, item.field⟩ ∧
              f.following = some item.calculation)) ∧
      ∀ select ∈ e.selects, select.ready ≠ none →
        e.joinSelects.isEmpty = true ∧
        (∀ f ∈ t.fields, f.calculation = none →
          ⟨.ofTable t.name.shortName f.column, some f.name⟩ ∈ (e.toQuery t.name).select) ∧
        (e.hasAggregation = true →
          .ofTable t.name.shortName select.column ∈ (e.toQuery t.name).groupBy) := by
  have sound := built.sound
  obtain ⟨serves, rfl⟩ := (plan_live_eq_some_iff sound member).1 survives
  have grain : ((t.course s o r).entry t).isAtGrain = true ↔ t.AtGrain r.select := by
    rw [Course.isAtGrain_entry]
    exact FactTable.isAtGrain_selected_iff (sound.fact member) serves.select
  refine ⟨grain, ?_, ?_⟩
  · intro item strategy record f resolves column stored
    exact ⟨Course.holds_record (resolves.mem_records sound member serves),
      resolves.record_of_stored sound member serves column stored⟩
  · intro select listed stored
    obtain ⟨atGrain, -⟩ := FactTable.exists_stored_of_ready sound member serves listed stored
    have alone := (Bool.and_eq_true _ _ ▸ grain.2 atGrain).2
    refine ⟨alone, ?_, fun aggregates => Entry.mem_groupBy listed aggregates t.name⟩
    intro f own plain
    exact FactTable.mem_toQuery_select_of_atGrain (sound.fact member) atGrain own plain

/-- Asked for all of its plain aliases, the rollup hands its sums out. -/
theorem ready_iff_atGrain_games :
    let r : Request := ⟨["store", "year"], [⟨"amount", .sum⟩], []⟩
    ∃ e record, (Games.star.plan r .standard).live.get? Games.byYear.name = some e ∧
      Games.byYear.Resolves Games.star .standard r ⟨"amount", .sum⟩ .directField record ∧
      e.isAtGrain = true ∧ record = .ready ⟨"total", "amount", some .sum⟩ ∧ e.Holds record ∧
      e.joinSelects.isEmpty = true := by
  intro r
  have member : Games.byYear ∈ Games.star.facts.values := by decide
  have live : (Games.star.plan r .standard).live.contains Games.byYear.name = true := by decide
  obtain ⟨e, survives⟩ := Keyed.contains_iff.1 live
  obtain ⟨grain, answers, ready⟩ := ready_iff_atGrain Games.star_built member survives
  have resolves : Games.byYear.Resolves Games.star .standard r ⟨"amount", .sum⟩ .directField
      (.ready ⟨"total", "amount", some .sum⟩) :=
    ⟨[], [], Games.byYear.selected Games.star r, rfl, by decide, by decide⟩
  have atGrain : Games.byYear.AtGrain r.select := ⟨by decide, by decide⟩
  obtain ⟨holds, -⟩ := answers _ _ _ (.calculated "total" "amount" .sum (some .sum)) resolves
    (by decide) (by decide)
  obtain ⟨alone, -⟩ := ready _ holds (by decide)
  exact ⟨e, _, survives, resolves, grain.2 atGrain, rfl, holds, alone⟩

end Schema

/-! A table of counts, which may be summed up. -/

namespace Games

def copiesByYear : FactTable where
  name := "shop.copies_by_year"
  isBase := false
  fields := [.named .dimension "y" "year" "Year", .calculated "sold" "copies" .count (some .sum)]

def copies : Schema where
  facts := ⟨[(copiesByYear.name, copiesByYear)], by decide⟩
  dimensions := .empty

theorem copiesByYear_built : copiesByYear.Built :=
  (FactTable.Built.new copiesByYear.name).addFields copiesByYear.fields rfl

theorem copies_built : copies.Built := .addFact .empty copiesByYear_built rfl

theorem copiesByYear_resolves :
    copiesByYear.Resolves copies .standard ⟨[], [⟨"copies", .sum⟩], []⟩ ⟨"copies", .sum⟩
      .directField (.inPlace ⟨"sold", .sum, "copies"⟩) :=
  ⟨[], [], .start copiesByYear, rfl, by decide, by decide⟩

end Games

namespace Schema

variable {s : Schema} {o : Options} {t : FactTable} {r : Request} {e : Entry}

/-- An item that is answered over a stored column asks for what the column stores, or for a
further aggregate that the table declares to follow. What is handed out as it is stores what it
is named for; what is aggregated is plain or declared to be aggregated so. -/
theorem calculation_of_stored (built : s.Built) (member : t ∈ s.facts.values)
    (survives : (s.plan r o).live.get? t.name = some e) :
    (∀ item strategy record f stored, t.Resolves s o r item strategy record →
        strategy.column? (.of s item o) t = some f → f.calculation = some stored →
          stored = item.calculation ∨
            f.following = some item.calculation ∧
              record = .inPlace ⟨f.column, item.calculation, item.field⟩) ∧
      (∀ select ∈ e.selects, select.ready ≠ none →
        ∃ item strategy f, t.Resolves s o r item strategy (.ready select) ∧
          strategy.column? (.of s item o) t = some f ∧
          select = ⟨f.column, item.field, some item.calculation⟩ ∧
          f.calculation = some item.calculation) ∧
      ∀ a ∈ e.aggregations,
        ∃ item strategy f, t.Resolves s o r item strategy (.inPlace a) ∧
          strategy.column? (.of s item o) t = some f ∧
          a = ⟨f.column, item.calculation, item.field⟩ ∧
          (f.calculation = none ∨ f.following = some item.calculation) := by
  have sound := built.sound
  obtain ⟨serves, rfl⟩ := (plan_live_eq_some_iff sound member).1 survives
  refine ⟨?_, ?_, fun a listed => FactTable.exists_following_of_inPlace sound member serves listed⟩
  · intro item strategy record f stored resolves column holds
    rcases resolves.record_eq sound member serves column with
      ⟨plain, -⟩ | ⟨same, -, -⟩ | ⟨-, -, follows, shape⟩
    · rw [holds] at plain
      cases plain
    · exact .inl (Option.some.inj (holds.symm.trans same))
    · exact .inr ⟨follows, shape⟩
  · intro select listed stored
    exact (FactTable.exists_stored_of_ready sound member serves listed stored).2

/-- The counts are summed up and published under the name of a sum. -/
theorem calculation_of_stored_games :
    let r : Request := ⟨[], [⟨"copies", .sum⟩], []⟩
    ∃ e, ∃ f ∈ Games.copiesByYear.fields,
      (Games.copies.plan r .standard).live.get? Games.copiesByYear.name = some e ∧
        f.calculation = some .count ∧ f.following = some .sum ∧
        (e.toQuery Games.copiesByYear.name).select =
          [⟨.aggregate .sum (.ofTable "copies_by_year" f.column), some "copies__sum"⟩] := by
  intro r
  have member : Games.copiesByYear ∈ Games.copies.facts.values := by decide
  have survives : (Games.copies.plan r .standard).live.get? Games.copiesByYear.name =
      some ((Entry.start Games.copiesByYear).addAggregation ⟨"sold", .sum, "copies"⟩) := by decide
  obtain ⟨answers, -⟩ := calculation_of_stored Games.copies_built member survives
  have allowed := answers _ _ _ (.calculated "sold" "copies" .count (some .sum)) .count
    Games.copiesByYear_resolves (by decide) rfl
  obtain ⟨follows, -⟩ := allowed.resolve_left (by decide)
  exact ⟨_, _, by decide, survives, rfl, follows, by decide⟩

/-- A stored column is not only used for the calculation that it stores. -/
theorem not_only_stored_calculation :
    ¬ ∀ (s : Schema) (o : Options) (t : FactTable) (r : Request) (e : Entry), s.Built →
      t ∈ s.facts.values → (s.plan r o).live.get? t.name = some e →
        ∀ item strategy record f stored, t.Resolves s o r item strategy record →
          strategy.column? (.of s item o) t = some f → f.calculation = some stored →
            stored = item.calculation := by
  intro only
  have live : (Games.copies.plan ⟨[], [⟨"copies", .sum⟩], []⟩ .standard).live.contains
      Games.copiesByYear.name = true := by decide
  obtain ⟨e, survives⟩ := Keyed.contains_iff.1 live
  have same := only _ _ _ _ e Games.copies_built (by decide) survives _ _ _
    (.calculated "sold" "copies" .count (some .sum)) .count Games.copiesByYear_resolves
    (by decide) rfl
  cases same

end Schema

end StarPlan
