import StarPlan.Proofs.Plan.References

/-!
# What the counting of keys changes

The planner may be kept from counting a key in place of an attribute. Only the items that ask for
such a count can tell (`Schema.countsKey`): any other item is answered alike under all options, by
the same strategy and with the same record, and what is selected and filtered does not depend on
the options either (`FactTable.entry_agreesBut`).

So the option loses no table, and where it gains one, the table stores an aggregate under the key
of a dimension, which can be neither joined by nor counted otherwise (`Schema.switch_keeps`).
-/

namespace StarPlan

/-- Whether an item asks for a count that its dimension allows to be taken over its key. -/
def Schema.countsKey (s : Schema) (item : AggregateItem) : Bool :=
  item.calculation.isCount && (s.lookupDimension item.field).any (·.field.countsByKey)

/-- Two entries differ in the answers to some aggregate items only. -/
structure Entry.AgreesBut (e e' : Entry) (apart : AggregateItem → Bool) : Prop where
  remaining : e.remaining = e'.remaining
  joinSelects : e.joinSelects = e'.joinSelects
  joinFilters : e.joinFilters = e'.joinFilters
  ownFilters : e.ownFilters = e'.ownFilters
  plain : e.selects.filter (·.ready.isNone) = e'.selects.filter (·.ready.isNone)
  ready : (e.selects.filter fun s => s.asked?.any fun item => !apart item) =
    e'.selects.filter fun s => s.asked?.any fun item => !apart item
  inPlace : (e.aggregations.filter fun a => !apart a.asked) =
    e'.aggregations.filter fun a => !apart a.asked
  joined : ∀ table, ((e.joinAggregations.itemsOf table).filter fun a => !apart a.asked) =
    (e'.joinAggregations.itemsOf table).filter fun a => !apart a.asked
  keys : ∀ table keys keys', e.joinAggregations.keysOf table = some keys →
    e'.joinAggregations.keysOf table = some keys' → keys = keys'

namespace FactTable

variable {s : Schema} {t : FactTable} {r : Request} {e : Entry} {item : AggregateItem}
variable {record : AggregateRecord} (o o' : Options)

/-! An item that does not ask for such a count is answered alike under all options. -/

theorem context_congr (apart : s.countsKey item = false) :
    AggregateContext.of s item o = .of s item o' := by
  have unused : ∀ o, (s.lookupDimension item.field).filter
      (·.allowsSubstitution o item.calculation) = none := by
    intro o
    rw [Option.filter_eq_none_iff]
    intro d found allowed
    rw [DimensionLookup.allowsSubstitution, Bool.and_eq_true, Bool.and_eq_true] at allowed
    rw [Schema.countsKey, found, allowed.2, Option.any_some, allowed.1.2] at apart
    cases apart
  rw [AggregateContext.of, AggregateContext.of, unused, unused]

theorem answer?_options (apart : s.countsKey item = false) :
    t.answer? s o e item = t.answer? s o' e item := by
  rw [answer?, answer?, context_congr o o' apart]

theorem resolves_options (sound : s.Sound) (member : t ∈ s.facts.values)
    (serves : t.Serves s o r) (serves' : t.Serves s o' r) (apart : s.countsKey item = false)
    (strategy : Strategy) :
    t.Resolves s o r item strategy record ↔ t.Resolves s o' r item strategy record := by
  rw [resolves_iff sound member serves, resolves_iff sound member serves',
    context_congr o o' apart]

/-- What is kept of the answers for items that do not ask for such a count. -/
theorem filter_records_options {γ : Type} {view : AggregateRecord → Option γ}
    {asked : γ → Option AggregateItem}
    (reports : ∀ record z, view record = some z → asked z = record.asked?) :
    (((t.course s o r).records.filterMap fun p => view p.2).filter
        fun z => (asked z).any fun item => !s.countsKey item) =
      ((t.course s o' r).records.filterMap fun p => view p.2).filter
        fun z => (asked z).any fun item => !s.countsKey item := by
  rw [course, course, filterMap_answered fun _ => view, filterMap_answered fun _ => view,
    List.filter_filterMap, List.filter_filterMap]
  refine List.filterMap_congr fun item _ => ?_
  cases counts : s.countsKey item with
  | false => rw [answer?_options o o' counts]
  | true =>
      have dropped : ∀ o, ((t.answer? s o (t.selected s r) item).bind view).filter
          (fun z => (asked z).any fun item => !s.countsKey item) = none := by
        intro o
        rw [Option.filter_eq_none_iff]
        intro z viewed
        obtain ⟨record, answered, shown⟩ := Option.bind_eq_some_iff.1 viewed
        rw [reports record z shown, asked?_of_answer? answered, Option.any_some, counts]
        exact Bool.false_ne_true
      rw [dropped, dropped]

/-- Under any two options, the entries of a table differ in the answers to such items only. -/
theorem entry_agreesBut (sound : s.Sound) :
    ((t.course s o r).entry t).AgreesBut ((t.course s o' r).entry t) s.countsKey := by
  obtain ⟨remaining, joinSelects, joinFilters, ownFilters⟩ :=
    (((Entry.start t).selectAll (t.course s o r).selects).filterAll
      (t.course s o r).filters).recordAll_keeps (t.course s o r).records
  obtain ⟨remaining', joinSelects', joinFilters', ownFilters'⟩ :=
    (((Entry.start t).selectAll (t.course s o' r).selects).filterAll
      (t.course s o' r).filters).recordAll_keeps (t.course s o' r).records
  refine {
    remaining := remaining.trans remaining'.symm
    joinSelects := joinSelects.trans joinSelects'.symm
    joinFilters := joinFilters.trans joinFilters'.symm
    ownFilters := ownFilters.trans ownFilters'.symm
    plain := ?_
    ready := ?_
    inPlace := ?_
    joined := ?_
    keys := ?_ }
  · have stored : ∀ o, ((t.course s o r).records.filterMap (·.2.ready?)).filter
        (·.ready.isNone) = [] := by
      intro o
      rw [List.filter_eq_nil_iff]
      intro select listed
      rw [Option.isNone_iff_eq_none]
      exact ready_ne_none_of_mem listed
    rw [Course.entry_selects, Course.entry_selects, List.filter_append, List.filter_append, stored,
      stored]
    rfl
  · have reports : ∀ (record : AggregateRecord) select, record.ready? = some select →
        select.asked? = record.asked? := by
      rintro (stored | a | ⟨table, keys, a⟩) select shown
      · rw [← Option.some.inj shown]; rfl
      · cases shown
      · cases shown
    rw [Course.entry_selects, Course.entry_selects, List.filter_append, List.filter_append]
    exact congrArg _ (filter_records_options o o' reports)
  · have reports : ∀ (record : AggregateRecord) a, record.inPlace? = some a →
        some a.asked = record.asked? := by
      rintro (stored | a | ⟨table, keys, a⟩) a' shown
      · cases shown
      · rw [← Option.some.inj shown]; rfl
      · cases shown
    rw [Course.entry_aggregations, Course.entry_aggregations]
    exact filter_records_options o o' reports
  · intro table
    have reports : ∀ (record : AggregateRecord) a, record.joined?.bind (under table) = some a →
        some a.asked = record.asked? := by
      rintro (stored | a | ⟨joined, keys, a⟩) a' shown
      · cases shown
      · cases shown
      · obtain ⟨-, shown⟩ := Option.ite_none_right_eq_some.1 shown
        rw [← Option.some.inj shown]; rfl
    rw [Course.itemsOf_joinAggregations, Course.itemsOf_joinAggregations]
    exact filter_records_options o o' reports
  · intro table keys keys' found found'
    exact (joins_of_course sound (Course.mem_joins_of_groupsBy (.inr (.inl found)))).unique sound
      (joins_of_course sound (Course.mem_joins_of_groupsBy (.inr (.inl found'))))

/-! What counting keys can add. -/

theorem answer?_off :
    t.answer? s ⟨false⟩ e item = (t.direct? e item.field item).or (t.joined? s item) := by
  have allowed : (s.lookupDimension item.field).filter
      (·.allowsSubstitution ⟨false⟩ item.calculation) = none :=
    Option.filter_eq_none_iff.2 fun _ _ => Bool.false_ne_true
  have off : t.substituted? s ⟨false⟩ e item = none := by
    rw [substituted?, allowed, Option.bind_none]
  rw [answer?_eq, off, Option.none_or]

theorem Serves.switchOn (serves : t.Serves s ⟨false⟩ r) : t.Serves s ⟨true⟩ r where
  select := serves.select
  filter := serves.filter
  aggregate item listed := by
    have answered := Option.isSome_iff_exists.2 (serves.aggregate item listed)
    rw [answer?_off] at answered
    rw [← Option.isSome_iff_exists, answer?_eq, Option.or_assoc, Option.isSome_or, answered,
      Bool.or_true]

/-- An item that is answered by counting keys alone is answered from a stored aggregate. -/
theorem exists_stored_key (sound : s.Sound) (built : t.Built)
    (on : ∃ record, t.answer? s ⟨true⟩ e item = some record)
    (off : ¬ ∃ record, t.answer? s ⟨false⟩ e item = some record) :
    ∃ d, s.Exposes item.field d ∧ ∃ f ∈ t.fields, f.name = d.serviceKey.name ∧
      f.calculation ≠ none := by
  rw [← Option.isSome_iff_exists, Option.not_isSome_iff_eq_none, answer?_off,
    Option.or_eq_none_iff] at off
  obtain ⟨record, answered⟩ := on
  rw [answer?_eq, off.1, off.2, Option.or_none, Option.or_none] at answered
  obtain ⟨d, looked, -, counted⟩ := substituted?_eq_some_iff.1 answered
  obtain ⟨f, held, -⟩ := direct?_eq_some_iff.1 counted
  obtain ⟨own, named⟩ := built.field?_eq_some_iff.1 held
  refine ⟨d, sound.lookupDimension_eq_some_iff.1 looked, f, own, named, fun plain => ?_⟩
  -- By a plain key the dimension could be joined.
  obtain ⟨keys, carried⟩ : ∃ keys, t.joinKeys? d = some keys :=
    ⟨_, (joinKeys?_eq_some_iff built).2 ⟨f, own, named, plain, rfl⟩⟩
  have joined := joined?_eq_some_iff.2 ⟨d, keys, looked, carried, rfl⟩
  rw [off.2] at joined
  cases joined

end FactTable

namespace Schema

variable {s : Schema} {t : FactTable}

/-- Allowing the planner to count keys loses no table, and it gains a table only by an aggregate
stored under the key of a dimension. What a table hands out beside such counts is the same, and
answered in the same way. -/
theorem switch_keeps (built : s.Built) (member : t ∈ s.facts.values) (r : Request) :
    ((s.plan r ⟨false⟩).live.contains t.name = true →
        (s.plan r ⟨true⟩).live.contains t.name = true) ∧
      ((s.plan r ⟨true⟩).live.contains t.name = true →
        (s.plan r ⟨false⟩).live.contains t.name = false →
          ∃ d ∈ s.dimensions.values, ∃ key ∈ d.fields, key.isKey = true ∧
            ∃ f ∈ t.fields, f.name = key.name ∧ f.calculation ≠ none) ∧
      ∀ e e', (s.plan r ⟨false⟩).live.get? t.name = some e →
        (s.plan r ⟨true⟩).live.get? t.name = some e' →
          e.AgreesBut e' s.countsKey ∧
            ∀ item strategy record, s.countsKey item = false →
              (t.Resolves s ⟨false⟩ r item strategy record ↔
                t.Resolves s ⟨true⟩ r item strategy record) := by
  have sound := built.sound
  refine ⟨?_, ?_, ?_⟩
  · rw [live_contains_iff sound member, live_contains_iff sound member]
    exact FactTable.Serves.switchOn
  · intro on off
    rw [live_contains_iff sound member] at on
    rw [← Bool.not_eq_true, live_contains_iff sound member] at off
    obtain ⟨item, listed, unanswered⟩ : ∃ item ∈ r.aggregate,
        ¬ ∃ record, t.answer? s ⟨false⟩ (t.selected s r) item = some record := by
      by_contra all
      exact off ⟨on.select, on.filter, fun item listed =>
        Classical.byContradiction fun none => all ⟨item, listed, none⟩⟩
    obtain ⟨d, exposed, f, own, named, stored⟩ :=
      FactTable.exists_stored_key sound (sound.fact member) (on.aggregate item listed) unanswered
    exact ⟨d.table, exposed.table, d.serviceKey, exposed.key, exposed.isKey, f, own, named, stored⟩
  · intro e e' survives survives'
    obtain ⟨serves, rfl⟩ := (plan_live_eq_some_iff sound member).1 survives
    obtain ⟨serves', rfl⟩ := (plan_live_eq_some_iff sound member).1 survives'
    exact ⟨FactTable.entry_agreesBut _ _ sound, fun item strategy record apart =>
      FactTable.resolves_options _ _ sound member serves serves' apart strategy⟩

/-- The sales hand out genres by a join either way; games are counted by their key or by a join. -/
theorem switch_keeps_games :
    let r : Request :=
      ⟨["genre"], [⟨"game", .countDistinct⟩, ⟨"genre", .max⟩, ⟨"amount", .sum⟩], []⟩
    ∃ e e', (Games.star.plan r ⟨false⟩).live.get? Games.sales.name = some e ∧
      (Games.star.plan r ⟨true⟩).live.get? Games.sales.name = some e' ∧
      e.aggregations ≠ e'.aggregations ∧ e.AgreesBut e' Games.star.countsKey := by
  intro r
  have member : Games.sales ∈ Games.star.facts.values := by decide
  have live : (Games.star.plan r ⟨false⟩).live.contains Games.sales.name = true := by decide
  obtain ⟨kept, -, both⟩ := switch_keeps Games.star_built member r
  obtain ⟨e, survives⟩ := Keyed.contains_iff.1 live
  obtain ⟨e', survives'⟩ := Keyed.contains_iff.1 (kept live)
  refine ⟨e, e', survives, survives', ?_, (both e e' survives survives').1⟩
  have counts : ((Games.star.plan r ⟨false⟩).live.get? Games.sales.name).map (·.aggregations) ≠
      ((Games.star.plan r ⟨true⟩).live.get? Games.sales.name).map (·.aggregations) := by decide
  rw [survives, survives'] at counts
  exact fun same => counts (congrArg some same)

end Schema

end StarPlan
