import StarPlan.Proofs.Plan.Grain

/-!
# Records that answer aggregate items

The record that answers an item is that of the first strategy that applies:
counting a dimension's key, then the field itself, then a join (`answer?_eq`). The statements
below say when each of the three applies and with which record, as membership statements about
the columns of the table.
-/

namespace StarPlan

/-- The aggregate item that a column of stored results reports. -/
def PlainSelect.asked? (s : PlainSelect) : Option AggregateItem :=
  s.ready.map (⟨s.field, ·⟩)

theorem PlainSelect.outputAlias_of_asked? (s : PlainSelect) {item : AggregateItem}
    (asked : s.asked? = some item) :
    s.outputAlias = item.field.withCalculation item.calculation := by
  obtain ⟨calculation, ready, rfl⟩ := Option.map_eq_some_iff.1 asked
  rw [outputAlias, ready]

/-- The aggregate item that an aggregate reports. -/
def Aggregation.asked (a : Aggregation) : AggregateItem :=
  ⟨a.field, a.calculation⟩

/-- The aggregate item that a record reports. -/
def AggregateRecord.asked? : AggregateRecord → Option AggregateItem
  | .ready s => s.asked?
  | .inPlace a | .joined _ _ a => some a.asked

namespace FactTable

/-- The record that answers an item by a column of a joined dimension. -/
def joined? (s : Schema) (t : FactTable) (item : AggregateItem) : Option AggregateRecord :=
  (s.lookupDimension item.field).bind fun d => (t.joinKeys? d).map fun keys =>
    .joined d.table.name keys ⟨d.field.column, item.calculation, item.field⟩

/-- The record that answers an item by the key of the dimension that exposes its field. -/
def substituted? (s : Schema) (o : Options) (t : FactTable) (e : Entry) (item : AggregateItem) :
    Option AggregateRecord :=
  ((s.lookupDimension item.field).filter (·.allowsSubstitution o item.calculation)).bind
    fun d => t.direct? e d.serviceKey.name item

variable {s : Schema} {o : Options} {t : FactTable} {e : Entry} {item : AggregateItem}
variable {record : AggregateRecord}

/-! What each strategy answers an item by. -/

theorem record?_substitution :
    Strategy.serviceKeySubstitution.record? (.of s item o) t e = t.substituted? s o e item := rfl

theorem record?_direct :
    Strategy.directField.record? (.of s item o) t e = t.direct? e item.field item := rfl

theorem record?_join :
    Strategy.joinAggregation.record? (.of s item o) t e = t.joined? s item := rfl

/-- Which strategy is the first to apply: each comes in where those before it do not apply. -/
theorem first?_order_eq :
    Strategy.first? (.of s item o) t e Strategy.order =
      (((t.substituted? s o e item).map (Strategy.serviceKeySubstitution, ·)).or
        ((t.direct? e item.field item).map (Strategy.directField, ·))).or
          ((t.joined? s item).map (Strategy.joinAggregation, ·)) := by
  rw [Strategy.first?, Strategy.order]
  simp only [List.findSome?_cons, List.findSome?_nil, record?_substitution, record?_direct,
    record?_join]
  cases t.substituted? s o e item with
  | some record => rfl
  | none =>
      cases t.direct? e item.field item with
      | some record => rfl
      | none => cases t.joined? s item <;> rfl

theorem first?_order_eq_some_iff {strategy : Strategy} :
    Strategy.first? (.of s item o) t e Strategy.order = some (strategy, record) ↔
      strategy = .serviceKeySubstitution ∧ t.substituted? s o e item = some record ∨
      strategy = .directField ∧ t.substituted? s o e item = none ∧
        t.direct? e item.field item = some record ∨
      strategy = .joinAggregation ∧ t.substituted? s o e item = none ∧
        t.direct? e item.field item = none ∧ t.joined? s item = some record := by
  have tagged : ∀ (tag : Strategy) (found : Option AggregateRecord),
      found.map (tag, ·) = some (strategy, record) ↔ strategy = tag ∧ found = some record := by
    intro tag found
    cases found <;> simp [eq_comm]
  simp only [first?_order_eq, Option.or_eq_some_iff, Option.or_eq_none_iff,
    Option.map_eq_none_iff, tagged, or_assoc, and_assoc]
  grind

theorem answer?_eq :
    t.answer? s o e item =
      ((t.substituted? s o e item).or (t.direct? e item.field item)).or (t.joined? s item) := by
  rw [answer?, first?_order_eq, Option.map_or, Option.map_or]
  simp only [Option.map_map, Function.comp_def, Option.map_id']

/-- What the column with an alias can answer directly: the results it stores are handed out at
the grain, and what may be aggregated is aggregated in place. -/
theorem direct?_eq_some_iff {lookup : Alias} :
    t.direct? e lookup item = some record ↔
      ∃ f, t.field? lookup = some f ∧
        (f.calculation = none ∧ record = .inPlace ⟨f.column, item.calculation, item.field⟩ ∨
        f.calculation = some item.calculation ∧ e.isAtGrain = true ∧
          record = .ready ⟨f.column, item.field, some item.calculation⟩ ∨
        f.calculation ≠ none ∧ ¬ (f.calculation = some item.calculation ∧ e.isAtGrain = true) ∧
          f.following = some item.calculation ∧
          record = .inPlace ⟨f.column, item.calculation, item.field⟩) := by
  rw [direct?, Option.bind_eq_some_iff]
  refine exists_congr fun f => and_congr_right fun _ => ?_
  cases stored : f.calculation with
  | none =>
      constructor
      · intro found
        exact .inl ⟨rfl, (Option.some.inj found).symm⟩
      · rintro (⟨-, rfl⟩ | ⟨bad, -⟩ | ⟨bad, -⟩)
        · rfl
        · cases bad
        · exact absurd rfl bad
  | some baked =>
      simp only [Option.some.injEq, reduceCtorEq, false_and, false_or, ne_eq,
        not_false_eq_true, true_and]
      split
      · next ready =>
        simp only [ready, true_and, not_true_eq_false, false_and, or_false, Option.some.injEq,
          eq_comm]
      · next notReady =>
        have none : ¬ (baked = item.calculation ∧ e.isAtGrain = true ∧
            record = .ready ⟨f.column, item.field, some item.calculation⟩) :=
          fun ready => notReady ⟨ready.1, ready.2.1⟩
        simp only [none, notReady, not_false_eq_true, true_and, false_or]
        split
        · next follows => simp only [follows, true_and, Option.some.injEq, eq_comm]
        · next stuck => simp only [stuck, false_and, reduceCtorEq]

theorem joined?_eq_some_iff :
    t.joined? s item = some record ↔
      ∃ d keys, s.lookupDimension item.field = some d ∧ t.joinKeys? d = some keys ∧
        record = .joined d.table.name keys
          ⟨d.field.column, item.calculation, item.field⟩ := by
  simp only [joined?, Option.bind_eq_some_iff, Option.map_eq_some_iff]
  constructor
  · rintro ⟨d, found, keys, held, rfl⟩
    exact ⟨d, keys, found, held, rfl⟩
  · rintro ⟨d, keys, found, held, rfl⟩
    exact ⟨d, found, keys, held, rfl⟩

theorem substituted?_eq_some_iff :
    t.substituted? s o e item = some record ↔
      ∃ d, s.lookupDimension item.field = some d ∧
        d.allowsSubstitution o item.calculation = true ∧
        t.direct? e d.serviceKey.name item = some record := by
  simp only [substituted?, Option.bind_eq_some_iff, Option.filter_eq_some_iff, and_assoc]

theorem asked?_of_direct? {lookup : Alias} (found : t.direct? e lookup item = some record) :
    record.asked? = some item := by
  obtain ⟨f, -, ⟨-, rfl⟩ | ⟨-, -, rfl⟩ | ⟨-, -, -, rfl⟩⟩ := direct?_eq_some_iff.1 found <;> rfl

/-- However an item is answered, it is this item that the record reports. -/
theorem asked?_of_answer? (found : t.answer? s o e item = some record) :
    record.asked? = some item := by
  rw [answer?_eq, Option.or_eq_some_iff, Option.or_eq_some_iff] at found
  rcases found with (substituted | ⟨-, direct⟩) | ⟨-, joined⟩
  · obtain ⟨d, -, -, counted⟩ := substituted?_eq_some_iff.1 substituted
    exact asked?_of_direct? counted
  · exact asked?_of_direct? direct
  · obtain ⟨d, keys, -, -, rfl⟩ := joined?_eq_some_iff.1 joined
    rfl

theorem direct?_of_plain (plain : ∀ f ∈ t.fields, f.calculation = none) {lookup : Alias}
    (found : t.direct? e lookup item = some record) :
    ∃ f, t.field? lookup = some f ∧
      record = .inPlace ⟨f.column, item.calculation, item.field⟩ := by
  obtain ⟨f, own, ⟨-, rfl⟩ | ⟨stored, -⟩ | ⟨stored, -⟩⟩ := direct?_eq_some_iff.1 found
  · exact ⟨f, own, rfl⟩
  · rw [plain f (List.mem_of_find?_eq_some own)] at stored
    cases stored
  · exact absurd (plain f (List.mem_of_find?_eq_some own)) stored

theorem direct?_eq_none_of_plain (plain : ∀ f ∈ t.fields, f.calculation = none) {lookup : Alias}
    (none : t.direct? e lookup item = none) : t.field? lookup = Option.none := by
  cases own : t.field? lookup with
  | none => rfl
  | some f =>
      have found : t.direct? e lookup item =
          some (.inPlace ⟨f.column, item.calculation, item.field⟩) :=
        direct?_eq_some_iff.2 ⟨f, own, .inl ⟨plain f (List.mem_of_find?_eq_some own), rfl⟩⟩
      rw [none] at found
      cases found

/-- A column answers a calculation directly over a table of which the given fields are
selected. -/
def Direct (t : FactTable) (select : List Alias) (lookup : Alias) (c : Calculation) : Prop :=
  ∃ f ∈ t.fields, f.name = lookup ∧
    (f.calculation = none ∨ f.calculation = some c ∧ t.AtGrain select ∨
      f.calculation ≠ none ∧ f.following = some c)

theorem exists_direct?_iff (built : t.Built) {select : List Alias}
    (grain : e.isAtGrain = true ↔ t.AtGrain select) (lookup : Alias) (item : AggregateItem) :
    (∃ record, t.direct? e lookup item = some record) ↔
      t.Direct select lookup item.calculation := by
  simp only [direct?_eq_some_iff, built.field?_eq_some_iff, grain]
  constructor
  · rintro ⟨record, f, ⟨member, named⟩, ⟨plain, -⟩ | ⟨stored, ready, -⟩ | ⟨stored, -, follows, -⟩⟩
    · exact ⟨f, member, named, .inl plain⟩
    · exact ⟨f, member, named, .inr (.inl ⟨stored, ready⟩)⟩
    · exact ⟨f, member, named, .inr (.inr ⟨stored, follows⟩)⟩
  · rintro ⟨f, member, named, plain | ⟨stored, ready⟩ | ⟨stored, follows⟩⟩
    · exact ⟨_, f, ⟨member, named⟩, .inl ⟨plain, rfl⟩⟩
    · exact ⟨_, f, ⟨member, named⟩, .inr (.inl ⟨stored, ready, rfl⟩)⟩
    · by_cases ready : f.calculation = some item.calculation ∧ t.AtGrain select
      · exact ⟨_, f, ⟨member, named⟩, .inr (.inl ⟨ready.1, ready.2, rfl⟩)⟩
      · exact ⟨_, f, ⟨member, named⟩, .inr (.inr ⟨stored, ready, follows, rfl⟩)⟩

end FactTable

end StarPlan
