import StarPlan.Proofs.Plan.Lowering
import StarPlan.Proofs.Plan.Resolves

/-!
# What the name of an aggregate column tells

An aggregate is published under the alias of its field, two underscores and the name of its
calculation. Aliases are any texts, so an alias may itself look like such a name, and the name of
one calculation begins with that of another one. But no calculation's name is the end of another
one's (`Calculation.eq_of_name_suffix`), and so the published name can be taken apart in one way
only (`Alias.withCalculation_eq_iff`).

For a planned query, `Schema.outputName_identifies_aggregate` says that of two columns that answer
aggregate items, whether handed out as stored, aggregated in place or aggregated behind a join,
the names agree exactly if the items do. A plain column is named for its alias, which may be any
of these names.
-/

namespace StarPlan

open Sql

theorem Alias.name_suffix_withCalculation (field : Alias) (c : Calculation) :
    c.name.toList <:+ (field.withCalculation c).toList := by
  rw [withCalculation, String.toList_append]
  exact List.suffix_append ..

theorem Alias.withCalculation_eq_iff {a b : Alias} {c d : Calculation} :
    a.withCalculation c = b.withCalculation d ↔ a = b ∧ c = d := by
  constructor
  · intro same
    -- Of two ends of one text, one is an end of the other.
    obtain rfl : c = d := by
      have left := a.name_suffix_withCalculation c
      have right := b.name_suffix_withCalculation d
      rw [← same] at right
      rcases List.suffix_or_suffix_of_suffix left right with ends | ends
      · exact Calculation.eq_of_name_suffix ends
      · exact (Calculation.eq_of_name_suffix ends).symm
    rw [withCalculation, withCalculation, String.append_left_inj, String.append_left_inj] at same
    exact ⟨same, rfl⟩
  · rintro ⟨rfl, rfl⟩
    rfl

theorem AggregateItem.outputName_eq_iff {item item' : AggregateItem} :
    item.field.withCalculation item.calculation = item'.field.withCalculation item'.calculation ↔
      item = item' := by
  obtain ⟨field, calculation⟩ := item
  obtain ⟨field', calculation'⟩ := item'
  rw [Alias.withCalculation_eq_iff, AggregateItem.mk.injEq]

namespace FactTable

variable {s : Schema} {o : Options} {t : FactTable} {r : Request} {fact : String}
variable {column : SelectItem}

/-- Every output column comes from the item that its decision is about. -/
theorem outputs_course :
    (((t.course s o r).entry t).outputs fact).Perm
      ((t.course s o r).selects.map (fun p => (.select p.1, p.2.item fact p.1)) ++
        (t.course s o r).records.map fun p => (.aggregate p.1, p.2.item fact)) := by
  refine ((t.course s o r).outputs_entry t fact).trans (.of_eq (congrArg _ ?_))
  refine List.map_congr_left fun p listed => ?_
  have asked := asked?_of_answer? (mem_answered_iff.1 listed).2
  rw [AggregateRecord.origin_of_asked? asked]

theorem mem_outputs_iff {origin : RequestItem} :
    (origin, column) ∈ ((t.course s o r).entry t).outputs fact ↔
      (∃ field source, (field, source) ∈ (t.course s o r).selects ∧ .select field = origin ∧
        source.item fact field = column) ∨
      ∃ item record, (item, record) ∈ (t.course s o r).records ∧ .aggregate item = origin ∧
        record.item fact = column := by
  rw [outputs_course.mem_iff, List.mem_append, List.mem_map, List.mem_map]
  simp only [Prod.exists, Prod.mk.injEq]

theorem mem_outputs_aggregate_iff {item : AggregateItem} :
    (.aggregate item, column) ∈ ((t.course s o r).entry t).outputs fact ↔
      ∃ record, (item, record) ∈ (t.course s o r).records ∧ record.item fact = column := by
  rw [mem_outputs_iff]
  constructor
  · rintro (⟨field, source, -, other, -⟩ | ⟨item', record, listed, same, shown⟩)
    · cases other
    · obtain rfl := RequestItem.aggregate.inj same
      exact ⟨record, listed, shown⟩
  · rintro ⟨record, listed, shown⟩
    exact .inr ⟨item, record, listed, rfl, shown⟩

theorem exists_aggregate_of_isAggregate {origin : RequestItem}
    (listed : (origin, column) ∈ ((t.course s o r).entry t).outputs fact)
    (aggregates : column.expr.isAggregate = true) : ∃ item, origin = .aggregate item := by
  rcases mem_outputs_iff.1 listed with
    ⟨field, source, -, -, rfl⟩ | ⟨item, record, -, origin, -⟩
  · cases source <;> cases aggregates
  · exact ⟨item, origin.symm⟩

/-- The output columns come from the select and aggregate items of the request, one from each. -/
theorem map_fst_outputs (serves : t.Serves s o r) :
    ((((t.course s o r).entry t).outputs fact).map (·.1)).Perm
      (r.selectItems ++ r.aggregateItems) := by
  refine (outputs_course.map _).trans (.of_eq ?_)
  rw [Request.selectItems, Request.aggregateItems, ← serves.map_fst_selects,
    ← serves.map_fst_records, List.map_append, List.map_map, List.map_map, List.map_map,
    List.map_map]
  rfl

/-- The column of an aggregate item is named for it. -/
theorem outputName_of_mem_outputs {item : AggregateItem}
    (listed : (.aggregate item, column) ∈ ((t.course s o r).entry t).outputs fact) :
    column.outputName = some (item.field.withCalculation item.calculation) := by
  obtain ⟨record, answered, rfl⟩ := mem_outputs_aggregate_iff.1 listed
  exact AggregateRecord.outputName_item (asked?_of_answer? (mem_answered_iff.1 answered).2) fact

end FactTable

/-! Copies of games, in a table whose aliases look like the names of aggregates. -/

namespace Games

def stock : FactTable where
  name := "shop.stock"
  isBase := false
  fields :=
    [.serviceKey "fk_game" "game_key", .named .value "n" "copies" "Copies",
      .calculated "counted" "copies__count" .count none]

def depot : Schema where
  facts := ⟨[(stock.name, stock)], by decide⟩
  dimensions := star.dimensions

theorem stock_built : stock.Built := (FactTable.Built.new stock.name).addFields stock.fields rfl

theorem depot_built : depot.Built := by
  refine .addFact ?_ stock_built (s := { depot with facts := .empty }) rfl
  exact .addDimension .empty game_built rfl

end Games

namespace Schema

/-- An alias and a calculation can be read off the name that they make together. So in a planned
query, whose columns come from the select and aggregate items of the request, one from each, the
columns of two aggregate items have the same name exactly if the items are the same: these columns
are what the planner has answered the items with, stored, in place or joined, and each column that
aggregates is one of them. -/
theorem outputName_identifies_aggregate :
    (∀ (a b : Alias) (c d : Calculation),
      a.withCalculation c = b.withCalculation d ↔ a = b ∧ c = d) ∧
    ∀ (s : Schema) (o : Options) (t : FactTable) (r : Request) (e : Entry), s.Built →
      t ∈ s.facts.values → (s.plan r o).live.get? t.name = some e →
        let outputs := e.outputs t.name.shortName
        outputs.map (·.2) = (e.toQuery t.name).select ∧
        (outputs.map (·.1)).Perm (r.selectItems ++ r.aggregateItems) ∧
        (∀ item column, (.aggregate item, column) ∈ outputs ↔
          ∃ strategy record, t.Resolves s o r item strategy record ∧
            record.item t.name.shortName = column) ∧
        (∀ origin column, (origin, column) ∈ outputs → column.expr.isAggregate = true →
          ∃ item, origin = .aggregate item) ∧
        ∀ item column item' column', (.aggregate item, column) ∈ outputs →
          (.aggregate item', column') ∈ outputs →
            (column.outputName = column'.outputName ↔ item = item') := by
  refine ⟨fun _ _ _ _ => Alias.withCalculation_eq_iff, ?_⟩
  intro s o t r e built member survives
  have sound := built.sound
  obtain ⟨serves, rfl⟩ := (plan_live_eq_some_iff sound member).1 survives
  refine ⟨Entry.map_snd_outputs _ t.name, FactTable.map_fst_outputs serves, ?_,
    fun _ _ => FactTable.exists_aggregate_of_isAggregate, ?_⟩
  · intro item column
    rw [FactTable.mem_outputs_aggregate_iff]
    simp only [← FactTable.exists_resolves_iff sound member serves]
    constructor
    · rintro ⟨record, ⟨strategy, resolves⟩, shown⟩
      exact ⟨strategy, record, resolves, shown⟩
    · rintro ⟨strategy, record, resolves, shown⟩
      exact ⟨record, ⟨strategy, resolves⟩, shown⟩
  · intro item column item' column' listed listed'
    rw [FactTable.outputName_of_mem_outputs listed, FactTable.outputName_of_mem_outputs listed',
      Option.some.injEq, AggregateItem.outputName_eq_iff]

/-- The stored count is handed out, copies are counted in two ways and a joined genre is aggregated.
What is named `copies__count` counts copies, although this is the alias of the stored count. -/
theorem outputName_identifies_aggregate_games :
    let r : Request :=
      ⟨["game_key", "copies"],
        [⟨"copies__count", .count⟩, ⟨"copies", .count⟩, ⟨"copies", .countDistinct⟩,
          ⟨"genre", .max⟩], []⟩
    ∃ e, (Games.depot.plan r .standard).live.get? Games.stock.name = some e ∧
      (e.toQuery Games.stock.name).select.map (·.outputName) =
        [some "game_key", some "copies", some "copies__count__count", some "copies__count",
          some "copies__count_distinct", some "genre__max"] ∧
      ∀ item column, (.aggregate item, column) ∈ e.outputs "stock" →
        column.outputName = some "copies__count" → item = ⟨"copies", .count⟩ := by
  intro r
  have planned : ((Games.depot.plan r .standard).live.get? Games.stock.name).map
      (·.outputs "stock") = some
        [(.select "game_key", ⟨.ofTable "stock" "fk_game", some "game_key"⟩),
          (.select "copies", ⟨.ofTable "stock" "n", some "copies"⟩),
          (.aggregate ⟨"copies__count", .count⟩,
            ⟨.ofTable "stock" "counted", some "copies__count__count"⟩),
          (.aggregate ⟨"copies", .count⟩,
            ⟨.aggregate .count (.ofTable "stock" "n"), some "copies__count"⟩),
          (.aggregate ⟨"copies", .countDistinct⟩,
            ⟨.aggregate .countDistinct (.ofTable "stock" "n"), some "copies__count_distinct"⟩),
          (.aggregate ⟨"genre", .max⟩,
            ⟨.aggregate .max (.ofTable "dim_game" "genre_name"), some "genre__max"⟩)] := by decide
  obtain ⟨e, survives, outputs⟩ := Option.map_eq_some_iff.1 planned
  have short : TableName.shortName Games.stock.name = "stock" := by decide
  obtain ⟨columns, -, -, -, names⟩ := outputName_identifies_aggregate.2 _ _ _ _ _
    Games.depot_built (by decide) survives
  rw [short, outputs] at columns
  rw [short] at names
  refine ⟨e, survives, by rw [← columns]; rfl, fun item column listed named => ?_⟩
  have counted : (.aggregate ⟨"copies", .count⟩,
      ⟨.aggregate .count (.ofTable "stock" "n"), some "copies__count"⟩) ∈ e.outputs "stock" := by
    rw [outputs]
    decide
  exact (names _ _ _ _ listed counted).1 named

end Schema

end StarPlan
