import StarPlan.Proofs.Plan.Answer

/-!
# Which fact tables survive

`FactTable.CanAnswer` says without reference to the run of the planner when a fact table can
answer a request: which columns it must have and which dimensions must be within reach.
`Schema.live_iff_canAnswer` says that the planner keeps exactly those tables and evicts all
others.
-/

namespace StarPlan

namespace FactTable

/-- A table can answer an aggregate item by counting the key of the dimension that exposes the
field, when the given fields are selected. -/
def CanCountKey (s : Schema) (o : Options) (t : FactTable) (select : List Alias)
    (item : AggregateItem) : Prop :=
  o.substituteKeys = true ∧
    (item.calculation = .count ∨ item.calculation = .countDistinct) ∧
    ∃ d, s.Exposes item.field d ∧ d.field.countsByKey = true ∧
      t.Direct select d.serviceKey.name item.calculation

/-- A table can answer an aggregate item when the given fields are selected: by counting the
key of the dimension that exposes the field, by the field itself, or by joining. -/
def CanAggregate (s : Schema) (o : Options) (t : FactTable) (select : List Alias)
    (item : AggregateItem) : Prop :=
  t.CanCountKey s o select item ∨ t.Direct select item.field item.calculation ∨
    ∃ d, s.Exposes item.field d ∧ d.serviceKey.name ∈ t.plainAliases

/-- A table can answer a request. -/
structure CanAnswer (s : Schema) (o : Options) (t : FactTable) (r : Request) : Prop where
  select : ∀ field ∈ r.select, t.Provides s field
  filter : ∀ item ∈ r.filter, t.Provides s item.field
  aggregate : ∀ item ∈ r.aggregate, t.CanAggregate s o r.select item

variable {s : Schema} {o : Options} {t : FactTable} {r : Request} {e : Entry}
variable {item : AggregateItem}

theorem allowsSubstitution_iff {d : DimensionLookup} {c : Calculation} :
    d.allowsSubstitution o c = true ↔
      o.substituteKeys = true ∧ (c = .count ∨ c = .countDistinct) ∧
        d.field.countsByKey = true := by
  have counts : c.isCount = true ↔ c = .count ∨ c = .countDistinct := by
    cases c <;> simp [Calculation.isCount]
  rw [DimensionLookup.allowsSubstitution, Bool.and_eq_true, Bool.and_eq_true, counts, and_assoc]
  exact and_congr_right fun _ => and_comm

theorem exists_substituted?_iff (sound : s.Sound) (built : t.Built) {select : List Alias}
    (grain : e.isAtGrain = true ↔ t.AtGrain select) :
    (∃ record, t.substituted? s o e item = some record) ↔ t.CanCountKey s o select item := by
  simp only [CanCountKey, substituted?_eq_some_iff, allowsSubstitution_iff,
    sound.lookupDimension_eq_some_iff]
  constructor
  · rintro ⟨record, d, exposed, ⟨on, counts, byKey⟩, found⟩
    exact ⟨on, counts, d, exposed, byKey, (exists_direct?_iff built grain _ _).1 ⟨record, found⟩⟩
  · rintro ⟨on, counts, d, exposed, byKey, direct⟩
    obtain ⟨record, found⟩ := (exists_direct?_iff built grain _ _).2 direct
    exact ⟨record, d, exposed, ⟨on, counts, byKey⟩, found⟩

theorem exists_answer?_iff (sound : s.Sound) (built : t.Built) {select : List Alias}
    (grain : e.isAtGrain = true ↔ t.AtGrain select) :
    (∃ record, t.answer? s o e item = some record) ↔ t.CanAggregate s o select item := by
  have joined : (∃ record, t.joined? s item = some record) ↔
      ∃ d, s.Exposes item.field d ∧ d.serviceKey.name ∈ t.plainAliases := by
    simp only [joined?_eq_some_iff, sound.lookupDimension_eq_some_iff]
    constructor
    · rintro ⟨record, d, keys, exposed, held, -⟩
      exact ⟨d, exposed, (exists_joinKeys?_iff built).1 ⟨keys, held⟩⟩
    · rintro ⟨d, exposed, carried⟩
      obtain ⟨keys, held⟩ := (exists_joinKeys?_iff built).2 carried
      exact ⟨_, d, keys, exposed, held, rfl⟩
  have substituted : (∃ record, t.substituted? s o e item = some record) ↔
      t.CanCountKey s o select item := exists_substituted?_iff sound built grain
  have direct := exists_direct?_iff built grain item.field item
  rw [CanAggregate, ← substituted, ← direct, ← joined]
  simp only [← Option.isSome_iff_exists, answer?_eq, Option.isSome_or, Bool.or_eq_true, or_assoc]

theorem serves_iff_canAnswer (sound : s.Sound) (built : t.Built) :
    t.Serves s o r ↔ t.CanAnswer s o r := by
  constructor
  · intro serves
    have grain := isAtGrain_selected_iff built serves.select
    exact {
      select := fun field member => (exists_locate?_iff sound built).1 (serves.select field member)
      filter := fun item member => (exists_locate?_iff sound built).1 (serves.filter item member)
      aggregate := fun item member =>
        (exists_answer?_iff sound built grain).1 (serves.aggregate item member) }
  · intro answers
    have select : ∀ field ∈ r.select, ∃ source, t.locate? s field = some source :=
      fun field member => (exists_locate?_iff sound built).2 (answers.select field member)
    have grain := isAtGrain_selected_iff built select
    exact {
      select := select
      filter := fun item member => (exists_locate?_iff sound built).2 (answers.filter item member)
      aggregate := fun item member =>
        (exists_answer?_iff sound built grain).2 (answers.aggregate item member) }

end FactTable

namespace Schema

variable {s : Schema} {t : FactTable}

/-- The planner keeps exactly the fact tables that can answer the request, and evicts all
others. -/
theorem live_iff_canAnswer (built : s.Built) (member : t ∈ s.facts.values) (r : Request)
    (o : Options) :
    ((s.plan r o).live.contains t.name = true ↔ t.CanAnswer s o r) ∧
      ((s.plan r o).evicted.contains t.name = true ↔ ¬ t.CanAnswer s o r) := by
  have sound := built.sound
  have live : (s.plan r o).live.contains t.name = true ↔ t.CanAnswer s o r := by
    simp only [Keyed.contains_iff, plan_live_eq_some_iff sound member, exists_and_left,
      exists_eq, and_true]
    exact FactTable.serves_iff_canAnswer sound (sound.fact member)
  refine ⟨live, ?_⟩
  rw [plan_evicted sound member, Bool.not_eq_true', ← Bool.not_eq_true, live]

/-- The rollup stores sums, which can be handed out or summed up further; averages it cannot
answer. -/
theorem live_iff_canAnswer_games :
    Games.star.Built ∧ Games.byYear ∈ Games.star.facts.values ∧
      Games.byYear.CanAnswer Games.star .standard ⟨["year"], [⟨"amount", .sum⟩], []⟩ ∧
      ¬ Games.byYear.CanAnswer Games.star .standard ⟨["year"], [⟨"amount", .avg⟩], []⟩ := by
  have member : Games.byYear ∈ Games.star.facts.values := by decide
  refine ⟨Games.star_built, member, ?_, ?_⟩
  · exact (live_iff_canAnswer Games.star_built member _ _).1.1 (by decide)
  · exact (live_iff_canAnswer Games.star_built member _ _).2.1 (by decide)

end Schema

end StarPlan
