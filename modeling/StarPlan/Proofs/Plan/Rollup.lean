import StarPlan.Proofs.Request.Rollup

/-!
# A rollup answers like its base table

If a rollup survives planning for a request about what it stores, so does its base table, and
the two planned queries have the same answer (`Schema.rollup_answers_alike`). The rollup
computes its aggregates unless the request is for the very groups that it stores; then all of
them are handed out.
-/

namespace StarPlan

open Sql

namespace FactTable

/-- A table is laid out as a rollup of a base table: it groups by columns of the base table and
stores calculations over columns that no dimension exposes. What may follow a stored calculation
is the same one again, if it can be taken in two steps. -/
structure RollsUp (s : Schema) (b t : FactTable) : Prop where
  plain : ∀ f ∈ b.fields, f.calculation = none
  groups : t.plainAliases ≠ []
  grain : ∀ name ∈ t.plainAliases, name ∈ b.fields.map (·.name)
  stored : ∀ f ∈ t.fields, f.calculation ≠ none → f.name ∈ b.fields.map (·.name)
  unexposed : ∀ f ∈ t.fields, f.calculation ≠ none → ∀ d ∈ s.dimensions.values,
    f.name ∉ d.fields.map (·.name)
  following : ∀ f ∈ t.fields, f.calculation ≠ none → f.following = none ∨
    f.following = f.calculation ∧
      (f.calculation = some .sum ∨ f.calculation = some .min ∨ f.calculation = some .max)

variable {s : Schema} {o : Options} {b t : FactTable} {r : Request}

theorem RollsUp.lookupDimension (sound : s.Sound) (layout : RollsUp s b t)
    (asks : r.AsksRollup t) :
    ∀ item ∈ r.aggregate, s.lookupDimension item.field = none := by
  intro item listed
  obtain ⟨f, member, named, stored⟩ := asks.aggregate item listed
  apply sound.lookupDimension_eq_none_iff.2
  intro d table g field same
  have calculated : f.calculation ≠ none := stored ▸ Option.some_ne_none _
  apply layout.unexposed f member calculated d table
  rw [named, ← same]
  exact List.mem_map_of_mem field

theorem RollsUp.alone_rollup (sound : s.Sound) (layout : RollsUp s b t)
    (asks : r.AsksRollup t) : t.Alone s r :=
  ⟨asks.select, asks.filter, layout.lookupDimension sound asks⟩

theorem RollsUp.mem_plainAliases (layout : RollsUp s b t) {name : Alias}
    (own : name ∈ b.fields.map (·.name)) : name ∈ b.plainAliases := by
  obtain ⟨f, member, named⟩ := List.mem_map.1 own
  exact mem_plainAliases_iff.2 ⟨f, member, named, layout.plain f member⟩

theorem RollsUp.alone_base (sound : s.Sound) (layout : RollsUp s b t)
    (asks : r.AsksRollup t) : b.Alone s r where
  select name listed := layout.mem_plainAliases (layout.grain name (asks.select name listed))
  filter item listed :=
    layout.mem_plainAliases (layout.grain item.field (asks.filter item listed))
  aggregate := layout.lookupDimension sound asks

/-- The base table serves every request that a rollup of it could serve. -/
theorem RollsUp.serves_base (sound : s.Sound) (built : b.Built) (layout : RollsUp s b t)
    (asks : r.AsksRollup t) : b.Serves s o r := by
  have alone := layout.alone_base sound asks
  have located : ∀ name ∈ b.plainAliases, ∃ source, b.locate? s name = some source := by
    intro name own
    obtain ⟨f, -, found⟩ := locate?_of_plain (s := s) built own
    exact ⟨_, found⟩
  refine ⟨fun name listed => located name (alone.select name listed),
    fun item listed => located item.field (alone.filter item listed), ?_⟩
  intro item listed
  obtain ⟨f, member, named, stored⟩ := asks.aggregate item listed
  have own := layout.stored f member (stored ▸ Option.some_ne_none _)
  rw [named] at own
  obtain ⟨g, held, -⟩ := locate?_of_plain (s := s) built (layout.mem_plainAliases own)
  refine ⟨.inPlace ⟨g.column, item.calculation, item.field⟩, ?_⟩
  rw [answer?_of_unexposed (alone.aggregate item listed)]
  exact direct?_eq_some_iff.2
    ⟨g, held, .inl ⟨layout.plain g (List.mem_of_find?_eq_some held), rfl⟩⟩

theorem RollsUp.isInPlace_base (sound : s.Sound) (layout : RollsUp s b t)
    (asks : r.AsksRollup t) : ∀ p ∈ (b.course s o r).records, p.2.isInPlace = true := by
  intro p listed
  obtain ⟨f, -, shape⟩ := direct?_of_plain layout.plain
    (direct?_of_record (layout.alone_base sound asks) listed)
  rw [shape]
  rfl

/-- At the grain of the rollup every aggregate is handed out; above it every one is computed,
and then it is one that can be taken in two steps. -/
theorem RollsUp.kind_rollup (sound : s.Sound) (built : t.Built) (layout : RollsUp s b t)
    (asks : r.AsksRollup t) (serves : t.Serves s o r) :
    t.AtGrain r.select ∧ (∀ p ∈ (t.course s o r).records, p.2.isReady = true) ∨
      (∀ p ∈ (t.course s o r).records, p.2.isInPlace = true) ∧
        ∀ item ∈ r.aggregate,
          item.calculation = .sum ∨ item.calculation = .min ∨ item.calculation = .max := by
  have alone := layout.alone_rollup sound asks
  have grain := isAtGrain_selected_iff built serves.select
  have shapes : ∀ p ∈ (t.course s o r).records, ∃ f ∈ t.fields,
      f.calculation = some p.1.calculation ∧
        ((t.selected s r).isAtGrain = true ∧ p.2.isReady = true ∨
          (t.selected s r).isAtGrain ≠ true ∧ f.following = some p.1.calculation ∧
            p.2.isInPlace = true) := by
    intro p listed
    obtain ⟨f, member, named, stored⟩ := asks.aggregate p.1 (mem_answered_iff.1 listed).1
    obtain ⟨g, held, answers⟩ := direct?_eq_some_iff.1 (direct?_of_record alone listed)
    rw [built.field?_eq_some_iff.2 ⟨member, named⟩] at held
    obtain rfl := Option.some.inj held
    refine ⟨f, member, stored, ?_⟩
    rcases answers with ⟨plain, -⟩ | ⟨-, ready, shape⟩ | ⟨-, finer, follows, shape⟩
    · rw [stored] at plain
      cases plain
    · exact .inl ⟨ready, by rw [shape]; rfl⟩
    · exact .inr ⟨fun ready => finer ⟨stored, ready⟩, follows, by rw [shape]; rfl⟩
  by_cases ready : (t.selected s r).isAtGrain = true
  · refine .inl ⟨grain.1 ready, fun p listed => ?_⟩
    obtain ⟨f, -, -, ⟨-, handedOut⟩ | ⟨finer, -⟩⟩ := shapes p listed
    · exact handedOut
    · exact absurd ready finer
  · refine .inr ⟨fun p listed => ?_, fun item listed => ?_⟩
    · obtain ⟨f, -, -, ⟨atGrain, -⟩ | ⟨-, -, computed⟩⟩ := shapes p listed
      · exact absurd atGrain ready
      · exact computed
    · obtain ⟨record, found⟩ := serves.aggregate item listed
      obtain ⟨f, member, stored, ⟨atGrain, -⟩ | ⟨-, follows, -⟩⟩ :=
        shapes (item, record) (mem_answered_iff.2 ⟨listed, found⟩)
      · exact absurd atGrain ready
      · rcases layout.following f member (stored ▸ Option.some_ne_none _) with unset | ⟨-, two⟩
        · rw [follows] at unset
          cases unset
        · rw [stored] at two
          simpa only [Option.some.injEq] using two

end FactTable

namespace Schema

variable {s : Schema} {o : Options} {b t : FactTable} {r : Request} {e : Entry}

/-- If a rollup survives for a request about what it stores, so does its base table, and the
queries of the two have the same rows, whatever the base table holds. -/
theorem rollup_answers_alike (built : s.Built) (base : b ∈ s.facts.values)
    (member : t ∈ s.facts.values) (layout : FactTable.RollsUp s b t) (asks : r.AsksRollup t)
    (survives : (s.plan r o).live.get? t.name = some e) :
    ∃ e', (s.plan r o).live.get? b.name = some e' ∧
      ∀ (V : Type) [Domain V] (literal : Literals V) (db : Database V), db.IsRollup b t →
        (e.toQuery t.name).answer literal db = (e'.toQuery b.name).answer literal db := by
  have sound := built.sound
  obtain ⟨serves, rfl⟩ := (plan_live_eq_some_iff sound member).1 survives
  have serves' := layout.serves_base (o := o) sound (sound.fact base) asks
  refine ⟨_, (plan_live_eq_some_iff sound base).2 ⟨serves', rfl⟩, ?_⟩
  intro V _ literal db rollup
  rw [FactTable.answer_of_isInPlace (sound.fact base) (layout.alone_base sound asks) serves'
    (layout.isInPlace_base sound asks)]
  have alone := layout.alone_rollup sound asks
  rcases layout.kind_rollup sound (sound.fact member) asks serves with
    ⟨grain, ready⟩ | ⟨inPlace, composes⟩
  · rw [FactTable.answer_of_isReady (sound.fact member) alone serves ready, rollup.rows_eq]
    exact Request.answer_of_ready (sound.fact member) asks grain layout.groups literal _
  · rw [FactTable.answer_of_isInPlace (sound.fact member) alone serves inPlace, rollup.rows_eq]
    exact Request.answer_rollup (sound.fact member) asks composes literal _

theorem rollup_answers_alike_games :
    let r : Request := ⟨["year"], [⟨"amount", .sum⟩], [⟨"year", .ge, "2020"⟩]⟩
    FactTable.RollsUp Games.star Games.sales Games.byYear ∧ r.AsksRollup Games.byYear ∧
      Games.content.IsRollup Games.sales Games.byYear ∧
      ∃ e e', (Games.star.plan r .standard).live.get? Games.byYear.name = some e ∧
        (Games.star.plan r .standard).live.get? Games.sales.name = some e' ∧
        (e.toQuery Games.byYear.name).answer Games.literal Games.content =
          (e'.toQuery Games.sales.name).answer Games.literal Games.content := by
  intro r
  have layout : FactTable.RollsUp Games.star Games.sales Games.byYear :=
    ⟨by decide, by decide, by decide, by decide, by decide, by decide⟩
  have asks : r.AsksRollup Games.byYear := ⟨by decide, by decide, by decide, by decide⟩
  have rollup : Games.content.IsRollup Games.sales Games.byYear := by decide +kernel
  have live : (Games.star.plan r .standard).live.contains Games.byYear.name = true := by decide
  obtain ⟨e, survives⟩ := Keyed.contains_iff.1 live
  obtain ⟨e', survives', alike⟩ := rollup_answers_alike Games.star_built (by decide) (by decide)
    layout asks survives
  exact ⟨layout, asks, rollup, e, e', survives, survives',
    alike ℚ Games.literal Games.content rollup⟩

end Schema

end StarPlan
