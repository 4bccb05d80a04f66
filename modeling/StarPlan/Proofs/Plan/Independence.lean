import StarPlan.Proofs.Plan.Isolation

/-!
# Fact tables are planned independently

What an item does to the entry of a fact table depends on the dimensions of the schema and on
the table, and on no other fact table. Two schemas with the same dimensions therefore treat a
fact table that they share alike, whatever else they hold (`Schema.plan_of_same_dimensions`).
One of them may be `Schema.only`, which keeps nothing beside the table and its dimensions and
can be built if the whole schema can.
-/

namespace StarPlan

variable {s s' : Schema} {o : Options} {t : FactTable}

/-! Serving an item reads the schema through the look-up of dimensions alone. -/

theorem Schema.lookupDimension_congr (same : s.dimensions = s'.dimensions) (name : Alias) :
    s.lookupDimension name = s'.lookupDimension name := by
  rw [lookupDimension, lookupDimension, same]

theorem AggregateContext.of_congr (same : s.dimensions = s'.dimensions) (item : AggregateItem) :
    AggregateContext.of s item o = .of s' item o := by
  rw [AggregateContext.of, AggregateContext.of, Schema.lookupDimension_congr same]

theorem RequestItem.serve_congr (same : s.dimensions = s'.dimensions) (e : Entry)
    (item : RequestItem) : item.serve s o t e = item.serve s' o t e := by
  cases item with
  | select field => rw [serve, serve, Schema.lookupDimension_congr same]
  | filter item => rw [serve, serve, Schema.lookupDimension_congr same]
  | aggregate item => rw [serve, serve, AggregateContext.of_congr same]

theorem FactTable.serveAll_congr (same : s.dimensions = s'.dimensions) (items : List RequestItem)
    (e : Entry) : t.serveAll s o items e = t.serveAll s' o items e := by
  rw [serveAll, serveAll]
  congr 1
  funext e item
  rw [RequestItem.serve_congr same]

namespace Schema

/-- The schema with one fact table and all dimensions. -/
def only (s : Schema) (t : FactTable) : Schema :=
  { s with facts := Keyed.empty.insert t.name t }

theorem mem_facts_only (s : Schema) (t : FactTable) : t ∈ (s.only t).facts.values :=
  Keyed.mem_values_iff.2 ⟨t.name, Keyed.get?_insert_self ..⟩

/-- The dimensions of a schema are accepted also where there are no fact tables. -/
theorem Built.withoutFacts (built : s.Built) : Built { s with facts := .empty } := by
  induction built with
  | empty => exact .empty
  | addFact _ _ accepted ih =>
      obtain ⟨-, rfl⟩ := addFact_eq_ok_iff.1 accepted
      exact ih
  | @addDimension s s' d _ table accepted ih =>
      obtain ⟨suits, rfl⟩ := addDimension_eq_ok_iff.1 accepted
      obtain ⟨notTaken, keyed, unexposed⟩ := dimensionFault?_eq_none_iff.1 suits
      refine ih.addDimension table (addDimension_eq_ok_iff.2 ⟨?_, rfl⟩)
      exact dimensionFault?_eq_none_iff.2
        ⟨isTaken_eq_false_iff.2 ⟨rfl, (isTaken_eq_false_iff.1 notTaken).2⟩, keyed, unexposed⟩

theorem Built.only (built : s.Built) (member : t ∈ s.facts.values) : (s.only t).Built := by
  have sound := built.sound
  have apart : s.dimensions.contains t.name = false :=
    sound.apart (Keyed.contains_iff.2 ⟨t, sound.get?_fact member⟩)
  have free : Schema.isTaken { s with facts := .empty } t.name = false :=
    isTaken_eq_false_iff.2 ⟨rfl, apart⟩
  refine built.withoutFacts.addFact (sound.fact member) (addFact_eq_ok_iff.2 ⟨?_, rfl⟩)
  -- No table is there that could be a second base table.
  rw [factFault?, free]
  cases t.isBase <;> rfl

variable {r : Request}

theorem plan_live_congr (sound : s.Sound) (sound' : s'.Sound)
    (same : s.dimensions = s'.dimensions) (member : t ∈ s.facts.values)
    (member' : t ∈ s'.facts.values) :
    (s.plan r o).live.get? t.name = (s'.plan r o).live.get? t.name := by
  rw [plan_live sound member, plan_live sound' member', FactTable.serveAll_congr same]

theorem plan_evicted_congr (sound : s.Sound) (sound' : s'.Sound)
    (same : s.dimensions = s'.dimensions) (member : t ∈ s.facts.values)
    (member' : t ∈ s'.facts.values) :
    (s.plan r o).evicted.contains t.name = (s'.plan r o).evicted.contains t.name := by
  rw [plan_evicted sound member, plan_evicted sound' member', Keyed.contains, Keyed.contains,
    plan_live_congr sound sound' same member member']

/-- A fact table fares alike in all schemas with the same dimensions: it survives in one if it
survives in the other, with the same entry, and it is evicted in one if it is evicted in the
other. In particular it fares as it does alone. -/
theorem plan_of_same_dimensions (built : s.Built) (built' : s'.Built)
    (same : s.dimensions = s'.dimensions) (member : t ∈ s.facts.values)
    (member' : t ∈ s'.facts.values) (r : Request) (o : Options) :
    (s.plan r o).live.get? t.name = (s'.plan r o).live.get? t.name ∧
      (s.plan r o).evicted.contains t.name = (s'.plan r o).evicted.contains t.name ∧
      (s.only t).Built ∧ (s.only t).facts.values = [t] ∧
      (s.plan r o).live.get? t.name = ((s.only t).plan r o).live.get? t.name ∧
      (s.plan r o).evicted.contains t.name = ((s.only t).plan r o).evicted.contains t.name := by
  have sound := built.sound
  have alone := built.only member
  exact ⟨plan_live_congr sound built'.sound same member member',
    plan_evicted_congr sound built'.sound same member member', alone, rfl,
    plan_live_congr sound alone.sound rfl member (mem_facts_only s t),
    plan_evicted_congr sound alone.sound rfl member (mem_facts_only s t)⟩

/-- Beside the rollup, which cannot take averages and is evicted, the raw table is planned as it
is alone. -/
theorem plan_of_same_dimensions_games :
    let r : Request := ⟨["genre"], [⟨"amount", .avg⟩], [⟨"year", .ge, "2020"⟩]⟩
    let alone := Games.star.only Games.sales
    Games.star.Built ∧ alone.Built ∧ Games.star.dimensions = alone.dimensions ∧
      (Games.star.plan r .standard).evicted.contains Games.byYear.name = true ∧
      (Games.star.plan r .standard).live.contains Games.sales.name = true ∧
      (Games.star.plan r .standard).live.get? Games.sales.name =
        (alone.plan r .standard).live.get? Games.sales.name := by
  intro r alone
  have member : Games.sales ∈ Games.star.facts.values := by decide
  have built := Games.star_built.only member
  obtain ⟨same, -⟩ := plan_of_same_dimensions Games.star_built built rfl member
    (mem_facts_only ..) r .standard
  exact ⟨Games.star_built, built, rfl, by decide, by decide, same⟩

end Schema

end StarPlan
