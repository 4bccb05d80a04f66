import Mathlib.Data.List.Nodup
import StarPlan.Proofs.Plan.References

/-!
# The qualifiers of a planned query

A schema tells its tables apart by their full names, a query its columns by the last part of the
name of their table. So a query may qualify the columns of two tables alike
(`Schema.not_qualifiers_nodup`): its qualifiers are distinct exactly if the fact table and the
dimensions through which it is asked differ in the last part of their names
(`Schema.qualifiers_nodup_iff`).
-/

namespace StarPlan

open Sql

/-- What qualifies the columns of the tables of a query, table by table. -/
def Sql.Query.qualifiers (q : Query) : List String :=
  (q.source :: q.joins.map (·.table)).map TableName.shortName

theorem Entry.qualifiers_toQuery (e : Entry) (table : TableName) :
    (e.toQuery table).qualifiers =
      table.shortName :: e.joinTables.names.map TableName.shortName := by
  rw [Query.qualifiers, joins_toQuery, List.map_map]
  rfl

/-- The tables that an entry joins are the dimensions through which items are answered. -/
theorem FactTable.mem_names_joinTables_iff {s : Schema} {o : Options} {t : FactTable} {r : Request}
    (sound : s.Sound) (member : t ∈ s.facts.values) (serves : t.Serves s o r)
    {table : TableName} :
    table ∈ ((t.course s o r).entry t).joinTables.names ↔
      ∃ d ∈ s.dimensions.values, (∃ item, t.Through s o r d item) ∧ d.name = table := by
  constructor
  · intro listed
    obtain ⟨⟨_, keys⟩, entered, rfl⟩ := List.mem_map.1 listed
    have decided := (mem_joinTables_iff sound).1 entered
    obtain ⟨d, known, -, -, -, -, -, -, -, named, -⟩ :=
      (joins_of_course sound decided).exists_columns (sound.fact member)
    refine ⟨d, known, ?_, named.symm⟩
    exact (exists_through_iff sound member serves known).2 ⟨keys, named ▸ decided⟩
  · rintro ⟨d, known, through, rfl⟩
    obtain ⟨keys, decided⟩ := (exists_through_iff sound member serves known).1 through
    exact List.mem_map.2 ⟨_, (mem_joinTables_iff sound).2 decided, rfl⟩

namespace Schema

/-- The qualifiers of a query are distinct exactly if the short names of its fact table and of
the dimensions through which items are answered are. -/
theorem qualifiers_nodup_iff {s : Schema} (built : s.Built) {t : FactTable}
    (member : t ∈ s.facts.values) {r : Request} {o : Options} {e : Entry}
    (survives : (s.plan r o).live.get? t.name = some e) :
    (e.toQuery t.name).qualifiers.Nodup ↔
      (∀ d ∈ s.dimensions.values, (∃ item, t.Through s o r d item) →
        TableName.shortName d.name ≠ TableName.shortName t.name) ∧
      ∀ d ∈ s.dimensions.values, ∀ d' ∈ s.dimensions.values,
        (∃ item, t.Through s o r d item) → (∃ item, t.Through s o r d' item) →
          TableName.shortName d.name = TableName.shortName d'.name → d = d' := by
  have sound := built.sound
  obtain ⟨serves, rfl⟩ := (plan_live_eq_some_iff sound member).1 survives
  have joined : ∀ {table}, table ∈ ((t.course s o r).entry t).joinTables.names ↔
      ∃ d ∈ s.dimensions.values, (∃ item, t.Through s o r d item) ∧ d.name = table :=
    FactTable.mem_names_joinTables_iff sound member serves
  have names : ((t.course s o r).entry t).joinTables.names.Nodup :=
    ((t.course s o r).entry t).joinTables.nodup_names
  rw [Entry.qualifiers_toQuery, List.nodup_cons, List.nodup_map_iff_inj_on names]
  refine and_congr ?_ ?_
  · constructor
    · intro absent d known through same
      exact absent (List.mem_map.2 ⟨d.name, joined.2 ⟨d, known, through, rfl⟩, same⟩)
    · intro apart listed
      obtain ⟨_, entered, same⟩ := List.mem_map.1 listed
      obtain ⟨d, known, through, rfl⟩ := joined.1 entered
      exact apart d known through same
  · constructor
    · intro injective d known d' known' through through' same
      exact sound.dimension_eq_of_name known known' (injective _ (joined.2 ⟨d, known, through, rfl⟩)
        _ (joined.2 ⟨d', known', through', rfl⟩) same)
    · intro apart a entered b entered' same
      obtain ⟨d, known, through, rfl⟩ := joined.1 entered
      obtain ⟨d', known', through', rfl⟩ := joined.1 entered'
      rw [apart d known d' known' through through' same]

end Schema

/-! Ratings of games, in a table that has the short name of its dimension. -/

namespace Games

def catalog : DimensionTable := { game with name := "catalog.game" }

def ratings : FactTable where
  name := "press.game"
  isBase := false
  fields := [.serviceKey "fk_game" "game_key", .named .value "stars" "rating" "Rating"]

def press : Schema where
  facts := ⟨[(ratings.name, ratings)], by decide⟩
  dimensions := ⟨[(catalog.name, catalog)], by decide⟩

theorem catalog_built : catalog.Built :=
  (DimensionTable.Built.new catalog.name).addFields catalog.fields rfl

theorem ratings_built : ratings.Built :=
  (FactTable.Built.new ratings.name).addFields ratings.fields rfl

theorem press_built : press.Built := by
  refine .addFact ?_ ratings_built (s := { press with facts := .empty }) rfl
  exact .addDimension .empty catalog_built rfl

end Games

namespace Schema

/-- The sales and the games of the star have short names of their own. -/
theorem qualifiers_nodup_iff_games :
    let r : Request := ⟨["genre"], [⟨"amount", .sum⟩], []⟩
    ∃ e, (Games.star.plan r .standard).live.get? Games.sales.name = some e ∧
      (e.toQuery Games.sales.name).qualifiers.Nodup := by
  intro r
  have member : Games.sales ∈ Games.star.facts.values := by decide
  have live : (Games.star.plan r .standard).live.contains Games.sales.name = true := by decide
  obtain ⟨e, survives⟩ := Keyed.contains_iff.1 live
  refine ⟨e, survives, (qualifiers_nodup_iff Games.star_built member survives).2 ⟨?_, ?_⟩⟩
  · intro d known _
    obtain rfl := List.mem_singleton.1 known
    decide
  · intro d known d' known' _ _ _
    rw [List.mem_singleton.1 known, List.mem_singleton.1 known']

/-- The qualifiers of a query are not always distinct. -/
theorem not_qualifiers_nodup :
    ¬ ∀ (s : Schema) (o : Options) (t : FactTable) (r : Request) (e : Entry), s.Built →
      t ∈ s.facts.values → (s.plan r o).live.get? t.name = some e →
        (e.toQuery t.name).qualifiers.Nodup := by
  intro distinct
  have survives : (Games.press.plan ⟨["genre"], [], []⟩ .standard).live.get? Games.ratings.name =
      some (((Entry.start Games.ratings).addJoinSelect "catalog.game" ⟨"fk_game", "sk_game"⟩
        ⟨"genre_name", "genre"⟩).consume "game_key") := by decide
  have clash := distinct _ _ _ _ _ Games.press_built (by decide) survives
  revert clash
  decide

end Schema

end StarPlan
