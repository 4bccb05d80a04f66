import StarPlan.Proofs.Plan.Course

/-!
# The planner only moves forward

The planner is a run of small steps: an item of the request visits a fact table, and before and
after each pass something is reported. `Schema.planAfter` is the plan after the first so many of
these steps, so that a point of the run is a number, and `Schema.planAfter_length` says that the
run ends with `Schema.plan`.

Each function that changes an entry makes it grow in the sense of `Entry.GrowsTo`, and a step
either lets one entry grow or gives its table up for good. `Schema.plan_forward` says what this
means for any two points of a run.
-/

namespace StarPlan

namespace Keyed

variable {α : Type} {R : α → α → Prop} {m m' m'' : Keyed α}

/-- Every name keeps a value, and the value only changes along a relation. -/
def GrowsTo (R : α → α → Prop) (m m' : Keyed α) : Prop :=
  ∀ name a, m.get? name = some a → ∃ a', m'.get? name = some a' ∧ R a a'

theorem GrowsTo.refl (same : ∀ a, R a a) (m : Keyed α) : m.GrowsTo R m :=
  fun _ a found => ⟨a, found, same a⟩

theorem GrowsTo.trans (link : ∀ {a b c}, R a b → R b c → R a c) (h : m.GrowsTo R m')
    (h' : m'.GrowsTo R m'') : m.GrowsTo R m'' := by
  intro name a found
  obtain ⟨b, found', first⟩ := h name a found
  obtain ⟨c, found'', second⟩ := h' name b found'
  exact ⟨c, found'', link first second⟩

theorem growsTo_alter (same : ∀ a, R a a) (m : Keyed α) (name : String) {f : Option α → α}
    (grows : ∀ a, R a (f (some a))) : m.GrowsTo R (m.alter name f) := by
  intro other a found
  rw [get?_alter]
  split
  · next named =>
    subst named
    exact ⟨_, rfl, found ▸ grows a⟩
  · exact ⟨a, found, same a⟩

end Keyed

namespace JoinGroup

variable {α : Type} {g g' g'' : JoinGroup α}

/-- The keys stay and items are added at the end. -/
structure GrowsTo (g g' : JoinGroup α) : Prop where
  keys : g'.keys = g.keys
  items : g.items <+: g'.items

theorem GrowsTo.refl (g : JoinGroup α) : g.GrowsTo g :=
  ⟨rfl, List.prefix_rfl⟩

theorem GrowsTo.trans (h : g.GrowsTo g') (h' : g'.GrowsTo g'') : g.GrowsTo g'' :=
  ⟨h'.keys.trans h.keys, h.items.trans h'.items⟩

theorem growsTo_addToGroup (groups : Keyed (JoinGroup α)) (table : TableName) (keys : JoinKeys)
    (item : α) : groups.GrowsTo JoinGroup.GrowsTo (groups.addToGroup table keys item) :=
  Keyed.growsTo_alter GrowsTo.refl groups table fun _ => ⟨rfl, List.prefix_append ..⟩

end JoinGroup

namespace Entry

variable {e e' e'' : Entry}

/-- Lists grow at their ends, what is held for a dimension or a column stays held, and unused
columns only get fewer. -/
structure GrowsTo (e e' : Entry) : Prop where
  selects : e.selects <+: e'.selects
  aggregations : e.aggregations <+: e'.aggregations
  joinSelects : e.joinSelects.GrowsTo JoinGroup.GrowsTo e'.joinSelects
  joinAggregations : e.joinAggregations.GrowsTo JoinGroup.GrowsTo e'.joinAggregations
  joinFilters : e.joinFilters.GrowsTo JoinGroup.GrowsTo e'.joinFilters
  ownFilters : e.ownFilters.GrowsTo List.IsPrefix e'.ownFilters
  remaining : ∀ field, e'.remaining.contains field = true → e.remaining.contains field = true

theorem GrowsTo.refl (e : Entry) : e.GrowsTo e where
  selects := List.prefix_rfl
  aggregations := List.prefix_rfl
  joinSelects := .refl JoinGroup.GrowsTo.refl _
  joinAggregations := .refl JoinGroup.GrowsTo.refl _
  joinFilters := .refl JoinGroup.GrowsTo.refl _
  ownFilters := .refl (fun _ => List.prefix_rfl) _
  remaining := fun _ h => h

theorem GrowsTo.trans (h : e.GrowsTo e') (h' : e'.GrowsTo e'') : e.GrowsTo e'' where
  selects := h.selects.trans h'.selects
  aggregations := h.aggregations.trans h'.aggregations
  joinSelects := h.joinSelects.trans JoinGroup.GrowsTo.trans h'.joinSelects
  joinAggregations := h.joinAggregations.trans JoinGroup.GrowsTo.trans h'.joinAggregations
  joinFilters := h.joinFilters.trans JoinGroup.GrowsTo.trans h'.joinFilters
  ownFilters := h.ownFilters.trans List.IsPrefix.trans h'.ownFilters
  remaining := fun field held => h.remaining field (h'.remaining field held)

/-! Every function that changes an entry touches one part of it. -/

theorem growsTo_consume (e : Entry) (field : Alias) : e.GrowsTo (e.consume field) := by
  refine { GrowsTo.refl e with remaining := fun other held => ?_ }
  rw [consume, Keyed.contains_erase, Bool.and_eq_true] at held
  exact held.2

theorem growsTo_addSelect (e : Entry) (s : PlainSelect) : e.GrowsTo (e.addSelect s) :=
  { GrowsTo.refl e with selects := List.prefix_append .. }

theorem growsTo_addAggregation (e : Entry) (a : Aggregation) :
    e.GrowsTo (e.addAggregation a) :=
  { GrowsTo.refl e with aggregations := List.prefix_append .. }

theorem growsTo_addFilter (e : Entry) (column : String) (c : Condition) :
    e.GrowsTo (e.addFilter column c) :=
  { GrowsTo.refl e with
    ownFilters :=
      Keyed.growsTo_alter (fun _ => List.prefix_rfl) _ column fun _ => List.prefix_append .. }

theorem growsTo_addJoinSelect (e : Entry) (table : TableName) (keys : JoinKeys)
    (f : JoinedField) : e.GrowsTo (e.addJoinSelect table keys f) :=
  { GrowsTo.refl e with joinSelects := JoinGroup.growsTo_addToGroup _ table keys f }

theorem growsTo_addJoinAggregation (e : Entry) (table : TableName) (keys : JoinKeys)
    (a : Aggregation) : e.GrowsTo (e.addJoinAggregation table keys a) :=
  { GrowsTo.refl e with joinAggregations := JoinGroup.growsTo_addToGroup _ table keys a }

theorem growsTo_addJoinFilter (e : Entry) (table : TableName) (keys : JoinKeys)
    (c : JoinedCondition) : e.GrowsTo (e.addJoinFilter table keys c) :=
  { GrowsTo.refl e with joinFilters := JoinGroup.growsTo_addToGroup _ table keys c }

theorem growsTo_select (e : Entry) (field : Alias) (source : FieldSource) :
    e.GrowsTo (e.select field source) := by
  cases source with
  | native f => exact (e.growsTo_addSelect _).trans (growsTo_consume ..)
  | joined d keys => exact (e.growsTo_addJoinSelect ..).trans (growsTo_consume ..)

theorem growsTo_filter (e : Entry) (item : FilterItem) (source : FieldSource) :
    e.GrowsTo (e.filter item source) := by
  cases source with
  | native f => exact e.growsTo_addFilter ..
  | joined d keys => exact e.growsTo_addJoinFilter ..

theorem growsTo_record (e : Entry) (record : AggregateRecord) :
    e.GrowsTo (e.record record) := by
  cases record with
  | ready s => exact e.growsTo_addSelect s
  | inPlace a => exact e.growsTo_addAggregation a
  | joined table keys a => exact e.growsTo_addJoinAggregation table keys a

end Entry

/-- Whatever the item, a table that can serve it has its entry extended. -/
theorem RequestItem.growsTo_of_serve {schema : Schema} {options : Options} {t : FactTable}
    {e e' : Entry} {item : RequestItem} (served : (item.serve schema options t e).1 = some e') :
    e.GrowsTo e' := by
  cases item with
  | select field =>
      rw [FactTable.serve_select, Option.map_eq_some_iff] at served
      obtain ⟨source, -, rfl⟩ := served
      exact e.growsTo_select field source
  | filter item =>
      rw [FactTable.serve_filter, Option.map_eq_some_iff] at served
      obtain ⟨source, -, rfl⟩ := served
      exact e.growsTo_filter item source
  | aggregate item =>
      rw [FactTable.serve_aggregate, Option.map_eq_some_iff] at served
      obtain ⟨record, -, rfl⟩ := served
      exact e.growsTo_record record

/-- One step of the planner. -/
inductive PlanStep where
  | visit (item : RequestItem) (t : FactTable)
  | report (event : Plan → Event)

/-- What a step does to a plan. -/
def PlanStep.run (schema : Schema) (options : Options) (p : Plan) : PlanStep → Plan
  | visit item t => p.visit schema options item t
  | report event => p.report [event p]

namespace Plan

variable {schema : Schema} {options : Options} {p p' p'' : Plan}

/-- Evicted tables stay evicted, and a live table was live before, with an entry that has
grown since. -/
structure LeadsTo (p p' : Plan) : Prop where
  evicted : ∀ name, p.evicted.contains name = true → p'.evicted.contains name = true
  live : ∀ name e', p'.live.get? name = some e' →
    ∃ e, p.live.get? name = some e ∧ e.GrowsTo e'

theorem LeadsTo.refl (p : Plan) : p.LeadsTo p :=
  ⟨fun _ h => h, LiveFrom.refl .refl p⟩

theorem LeadsTo.trans (h : p.LeadsTo p') (h' : p'.LeadsTo p'') : p.LeadsTo p'' where
  evicted := fun name gone => h'.evicted name (h.evicted name gone)
  live := LiveFrom.trans .trans h.live h'.live

theorem visit_evicted (item : RequestItem) (p : Plan) (t : FactTable) (name : TableName)
    (gone : p.evicted.contains name = true) :
    (visit schema options item p t).evicted.contains name = true := by
  cases found : p.live.get? t.name with
  | none => rwa [visit_absent found]
  | some e =>
      rcases outcome : item.serve schema options t e with ⟨_ | e', events⟩
      · rw [visit_refused found outcome]
        show (p.evicted.insert t.name ()).contains name = true
        rw [Keyed.contains_insert, gone, Bool.or_true]
      · rwa [visit_served found outcome]

theorem leadsTo_visit (p : Plan) (item : RequestItem) (t : FactTable) :
    p.LeadsTo (visit schema options item p t) where
  evicted := visit_evicted item p t
  live := liveFrom_visit .refl RequestItem.growsTo_of_serve p

theorem leadsTo_report (p : Plan) (events : List Event) : p.LeadsTo (p.report events) :=
  ⟨fun _ h => h, LiveFrom.refl .refl p⟩

theorem leadsTo_step (p : Plan) (step : PlanStep) : p.LeadsTo (step.run schema options p) := by
  cases step with
  | visit item t => exact leadsTo_visit p item t
  | report event => exact leadsTo_report p _

theorem leadsTo_run (p : Plan) (steps : List PlanStep) :
    p.LeadsTo (steps.foldl (PlanStep.run schema options) p) := by
  induction steps generalizing p with
  | nil => exact .refl p
  | cons step rest ih => exact (leadsTo_step p step).trans (ih _)

theorem Accounts.step (h : p.Accounts schema) (step : PlanStep) :
    (step.run schema options p).Accounts schema := by
  cases step with
  | visit item t => exact visit_accounts h item t
  | report event => exact h.report _

theorem Accounts.run (h : p.Accounts schema) (steps : List PlanStep) :
    (steps.foldl (PlanStep.run schema options) p).Accounts schema := by
  induction steps generalizing p with
  | nil => exact h
  | cons step rest ih => exact ih (h.step step)

end Plan

namespace Schema

variable {s : Schema} {r : Request} {o : Options}

/-- The visits of a pass: each item in turn goes to all fact tables. -/
def visits (s : Schema) (items : List RequestItem) : List PlanStep :=
  items.flatMap fun item => s.facts.values.map (.visit item)

/-- The steps by which a request is planned. -/
def planSteps (s : Schema) (r : Request) : List PlanStep :=
  .report (fun p => .planning p.live.size r.select.length r.filter.length r.aggregate.length) ::
  s.visits r.selectItems ++ .report (fun p => .selectsDone p.live.size) ::
  s.visits r.filterItems ++ .report (fun p => .filtersDone p.live.size) ::
  s.visits r.aggregateItems ++
  [.report fun p => .aggregatesDone p.live.size p.evicted.size]

/-- The plan after the first `n` steps. -/
def planAfter (s : Schema) (r : Request) (o : Options) (n : Nat) : Plan :=
  ((s.planSteps r).take n).foldl (PlanStep.run s o) (.start s)

theorem foldl_visits (items : List RequestItem) (p : Plan) :
    (s.visits items).foldl (PlanStep.run s o) p = p.applyAll s o items := by
  induction items generalizing p with
  | nil => rfl
  | cons item rest ih =>
      rw [visits, List.flatMap_cons, List.foldl_append, List.foldl_map]
      exact ih _

theorem planAfter_length (s : Schema) (r : Request) (o : Options) :
    s.planAfter r o (s.planSteps r).length = s.plan r o := by
  rw [planAfter, List.take_length, planSteps]
  simp only [List.cons_append, List.append_assoc, List.foldl_cons, List.foldl_append,
    foldl_visits]
  rfl

theorem planAfter_add (s : Schema) (r : Request) (o : Options) (n more : Nat) :
    s.planAfter r o (n + more) =
      (((s.planSteps r).drop n).take more).foldl (PlanStep.run s o) (s.planAfter r o n) := by
  rw [planAfter, List.take_add, List.foldl_append]
  rfl

theorem planAfter_accounts (s : Schema) (r : Request) (o : Options) (n : Nat) :
    (s.planAfter r o n).Accounts s :=
  (Plan.start_accounts s).run _

theorem planAfter_leadsTo (s : Schema) (r : Request) (o : Options) (n more : Nat) :
    (s.planAfter r o n).LeadsTo (s.planAfter r o (n + more)) := by
  rw [planAfter_add]
  exact Plan.leadsTo_run ..

/-- What is still unused was unused at the start, where it is a plain alias of the table. -/
theorem mem_plainAliases_of_remaining {name : TableName} {t : FactTable}
    (filed : s.facts.get? name = some t) {n : Nat} {e : Entry}
    (live : (s.planAfter r o n).live.get? name = some e) {field : Alias}
    (unused : e.remaining.contains field = true) : field ∈ t.plainAliases := by
  have fromStart : (Plan.start s).LeadsTo (s.planAfter r o n) := Plan.leadsTo_run ..
  obtain ⟨e₀, live₀, grown⟩ := fromStart.live name e live
  rw [Plan.start_live, filed, Option.map_some, Option.some.injEq] at live₀
  have unused₀ := grown.remaining field unused
  rw [← live₀, Entry.start, Names.contains_ofList] at unused₀
  exact List.contains_iff_mem.1 unused₀

/-- At every point of the planning the live and the evicted tables share out the fact tables,
and the unused columns of a live table are among its plain aliases. From there on an evicted
table is never live again, and what a live table has recorded is only added to. -/
theorem plan_forward (s : Schema) (r : Request) (o : Options) (n more : Nat) :
    (s.planAfter r o n).Accounts s ∧
      (∀ name t e, s.facts.get? name = some t → (s.planAfter r o n).live.get? name = some e →
        ∀ field, e.remaining.contains field = true → field ∈ t.plainAliases) ∧
      (s.planAfter r o n).LeadsTo (s.planAfter r o (n + more)) ∧
      (∀ name, (s.planAfter r o n).evicted.contains name = true →
        (s.planAfter r o (n + more)).live.contains name = false) ∧
      s.planAfter r o (s.planSteps r).length = s.plan r o := by
  have forward := s.planAfter_leadsTo r o n more
  refine ⟨s.planAfter_accounts r o n, ?_, forward, ?_, s.planAfter_length r o⟩
  · intro name t e filed live field unused
    exact mem_plainAliases_of_remaining filed live unused
  · intro name gone
    have later := s.planAfter_accounts r o (n + more)
    rw [← Bool.not_eq_true]
    intro live
    have kept := later.apart name live
    rw [forward.evicted name gone] at kept
    cases kept

/-- Stored sums by year cannot be averaged: the aggregate item is served by the sales and
then gives the rollup up. -/
example :
    let after := Games.star.planAfter ⟨["year"], [⟨"amount", .avg⟩], []⟩ .standard
    (after 6).live.names = ["shop.sales", "shop.sales_by_year"] ∧
      (after 7).live.names = ["shop.sales"] ∧
      (after 7).evicted.names = ["shop.sales_by_year"] := by
  decide

end Schema

end StarPlan
