import StarPlan.Proofs.Plan.Reports

/-!
# What the decision log tells

The log of a plan is read by people who want to know why a table was given up and what is left.
`FactTable.Satisfies` says without reference to the planner whether a table can satisfy an item,
and a table that is given up is reported with the first item of the request that it cannot
satisfy.

The summaries between the passes count tables. `Plan.Reckons` relates the numbers of live and
evicted tables to the evictions in the log so far; every step of the planner keeps it, so each
summary is right at the time of its report. `Schema.log_truthful` puts all of this together.
-/

namespace StarPlan

/-! The summaries of the passes. -/

namespace Event

/-- The numbers in a summary are right, given how many fact tables there are and what was
reported before: a table is left unless it was given up. -/
def Tallies (tables : Nat) (before : List Event) : Event → Prop
  | selectsDone surviving | filtersDone surviving =>
    surviving + before.countP isEviction = tables
  | aggregatesDone surviving evicted =>
    surviving + before.countP isEviction = tables ∧ surviving + evicted = tables
  | _ => True

/-- Every summary in a log is right at its place. -/
def Tallied (tables : Nat) (log : List Event) : Prop :=
  ∀ before event after, log = before ++ event :: after → event.Tallies tables before

variable {tables : Nat} {log more : List Event} {event : Event}

theorem tallies_of_not_summary (quiet : event.isSummary = false) : event.Tallies tables log := by
  cases event with
  | selectsDone _ | filtersDone _ | aggregatesDone _ _ => cases quiet
  | _ => trivial

theorem Tallied.concat (h : Tallied tables log) (right : event.Tallies tables log) :
    Tallied tables (log ++ [event]) := by
  intro before other after split
  rcases List.eq_nil_or_concat after with rfl | ⟨after, last, rfl⟩
  · obtain ⟨rfl, same⟩ := List.append_inj' split rfl
    obtain rfl := List.singleton_inj.1 same
    exact right
  · rw [List.concat_eq_append, ← List.cons_append, ← List.append_assoc] at split
    exact h before other after (List.append_inj' split rfl).1

theorem Tallied.append (h : Tallied tables log)
    (quiet : ∀ event ∈ more, event.isSummary = false) : Tallied tables (log ++ more) := by
  induction more generalizing log with
  | nil => rwa [List.append_nil]
  | cons event rest ih =>
      obtain ⟨first, later⟩ := List.forall_mem_cons.1 quiet
      rw [List.append_cons]
      exact ih (h.concat (tallies_of_not_summary first)) later

end Event

/-- The numbers of live and evicted tables follow from the evictions in the log, and so do those
in its summaries. -/
structure Plan.Reckons (s : Schema) (p : Plan) : Prop where
  accounts : p.Accounts s
  live : p.live.size + p.log.countP Event.isEviction = s.facts.size
  evicted : p.evicted.size = p.log.countP Event.isEviction
  summaries : Event.Tallied s.facts.size p.log

/-- What a step reports about the plan is right. -/
def PlanStep.Honest (s : Schema) : PlanStep → Prop
  | visit .. => True
  | report event =>
    ∀ p : Plan, p.Reckons s → (event p).Tallies s.facts.size p.log ∧ (event p).isEviction = false

namespace Plan

variable {s : Schema} {o : Options} {p : Plan}

theorem start_reckons (s : Schema) : (start s).Reckons s where
  accounts := start_accounts s
  live := List.length_map ..
  evicted := rfl
  summaries before event after split := by
    cases before <;> cases split

theorem Reckons.visit (h : p.Reckons s) (item : RequestItem) (t : FactTable) :
    (visit s o item p t).Reckons s := by
  have accounts : (Plan.visit s o item p t).Accounts s := visit_accounts h.accounts item t
  cases found : p.live.get? t.name with
  | none => rwa [visit_absent found]
  | some e =>
      have log : (Plan.visit s o item p t).log = p.log ++ t.tells s o item e := by
        rw [visit_log, found]
        rfl
      have summaries : Event.Tallied s.facts.size (Plan.visit s o item p t).log :=
        log ▸ h.summaries.append fun event told => (FactTable.tells_about told).2
      -- What is live loses one table exactly if the log gets one eviction.
      have evictions : (Plan.visit s o item p t).log.countP Event.isEviction =
          p.log.countP Event.isEviction + ((t.tells s o item e).filter (·.isEviction)).length := by
        rw [log, List.countP_append, List.countP_eq_length_filter (l := t.tells s o item e)]
      rw [FactTable.filter_isEviction_tells] at evictions
      have live := h.live
      have evicted := h.evicted
      rcases outcome : item.serve s o t e with ⟨_ | e', events⟩ <;>
        rw [outcome] at evictions <;> refine ⟨accounts, ?_, ?_, summaries⟩ <;>
        rw [evictions]
      · rw [visit_refused found outcome, report_live, evict_live]
        have size := Keyed.size_of_get? found
        simp only [List.length_singleton]
        omega
      · have fresh : p.evicted.get? t.name = none :=
          Keyed.contains_eq_false_iff.1 (h.accounts.apart _ (Keyed.contains_iff.2 ⟨e, found⟩))
        rw [visit_refused found outcome]
        show (p.evicted.insert t.name ()).size = _
        rw [Keyed.size_insert, Keyed.erase_of_get?_eq_none fresh, evicted]
        rfl
      · rw [visit_served found outcome, report_live, Keyed.size_insert, ← Keyed.size_of_get? found]
        exact live
      · rw [visit_served found outcome]
        exact evicted

theorem Reckons.step (h : p.Reckons s) {step : PlanStep} (honest : step.Honest s) :
    (step.run s o p).Reckons s := by
  cases step with
  | visit item t => exact h.visit item t
  | report event =>
      obtain ⟨right, quiet⟩ := honest p h
      have same : (p.log ++ [event p]).countP Event.isEviction =
          p.log.countP Event.isEviction := by
        rw [List.countP_append, List.countP_singleton, quiet]
        rfl
      exact ⟨h.accounts.report _, same ▸ h.live, same ▸ h.evicted, h.summaries.concat right⟩

theorem Reckons.run (h : p.Reckons s) {steps : List PlanStep}
    (honest : ∀ step ∈ steps, step.Honest s) :
    (steps.foldl (PlanStep.run s o) p).Reckons s := by
  induction steps generalizing p with
  | nil => exact h
  | cons step rest ih =>
      obtain ⟨first, later⟩ := List.forall_mem_cons.1 honest
      exact ih (h.step first) later

theorem filter_visit {kind : Event → Bool} {item : RequestItem}
    (quiet : ∀ (t : FactTable) e, ∀ event ∈ t.tells s o item e, kind event = false) (p : Plan)
    (t : FactTable) :
    (visit s o item p t).log.filter kind = p.log.filter kind := by
  rw [visit_log, List.filter_append]
  have none : (((p.live.get? t.name).map (t.tells s o item)).getD []).filter kind = [] := by
    cases p.live.get? t.name with
    | none => rfl
    | some e =>
        refine List.filter_eq_nil_iff.2 fun event told => ?_
        rw [quiet t e event told]
        exact Bool.false_ne_true
  rw [none, List.append_nil]

/-- A pass over items that report nothing of a kind adds nothing of this kind to the log. -/
theorem filter_applyAll {kind : Event → Bool} {items : List RequestItem}
    (quiet : ∀ item ∈ items, ∀ (t : FactTable) e, ∀ event ∈ t.tells s o item e, kind event = false)
    (p : Plan) : (p.applyAll s o items).log.filter kind = p.log.filter kind := by
  have pass : ∀ item ∈ items, ∀ (tables : List FactTable) (p : Plan),
      (tables.foldl (visit s o item) p).log.filter kind = p.log.filter kind := by
    intro item listed tables
    induction tables with
    | nil => exact fun _ => rfl
    | cons t rest ih => exact fun p => (ih _).trans (filter_visit (quiet item listed) p t)
  induction items generalizing p with
  | nil => rfl
  | cons item rest ih =>
      obtain ⟨first, later⟩ := List.forall_mem_cons.1 quiet
      obtain ⟨here, there⟩ := List.forall_mem_cons.1 pass
      exact (ih later _ there).trans (here _ p)

theorem filter_isSummary_applyAll (items : List RequestItem) (p : Plan) :
    (p.applyAll s o items).log.filter (·.isSummary) = p.log.filter (·.isSummary) :=
  filter_applyAll (fun _ _ _ _ _ told => (FactTable.tells_about told).2) p

end Plan

namespace Schema

variable {s : Schema} {r : Request} {o : Options}

theorem honest_of_mem_visits {items : List RequestItem} :
    ∀ step ∈ s.visits items, step.Honest s := by
  intro step listed
  obtain ⟨item, -, visited⟩ := List.mem_flatMap.1 listed
  obtain ⟨t, -, rfl⟩ := List.mem_map.1 visited
  trivial

theorem honest_of_mem_planSteps : ∀ step ∈ s.planSteps r, step.Honest s := by
  intro step listed
  simp only [planSteps, List.mem_cons, List.mem_append, List.not_mem_nil, or_false] at listed
  rcases listed with ((((rfl | visit) | rfl | visit) | rfl | visit) | rfl)
  · exact fun p _ => ⟨trivial, rfl⟩
  · exact honest_of_mem_visits step visit
  · exact fun p h => ⟨h.live, rfl⟩
  · exact honest_of_mem_visits step visit
  · exact fun p h => ⟨h.live, rfl⟩
  · exact honest_of_mem_visits step visit
  · exact fun p h => ⟨⟨h.live, h.evicted ▸ h.live⟩, rfl⟩

theorem plan_reckons (s : Schema) (r : Request) (o : Options) : (s.plan r o).Reckons s := by
  rw [← planAfter_length, planAfter, List.take_length]
  exact (Plan.start_reckons s).run honest_of_mem_planSteps

/-- Summaries are reported between the passes, one after each. -/
theorem exists_summaries (s : Schema) (r : Request) (o : Options) :
    ∃ selected filtered surviving evicted, (s.plan r o).log.filter (·.isSummary) =
      [.selectsDone selected, .filtersDone filtered, .aggregatesDone surviving evicted] := by
  unfold plan
  simp only [Plan.report, List.filter_append, Plan.filter_isSummary_applyAll]
  exact ⟨_, _, _, _, rfl⟩

end Schema

/-! The first item that a table cannot satisfy. -/

namespace FactTable

/-- A table can satisfy an item of a request. -/
def Satisfies (s : Schema) (o : Options) (t : FactTable) (r : Request) : RequestItem → Prop
  | .select field => t.Provides s field
  | .filter item => t.Provides s item.field
  | .aggregate item => t.CanAggregate s o r.select item

variable {s : Schema} {o : Options} {t : FactTable} {r : Request} {item : RequestItem} {e : Entry}
variable {before after : List RequestItem}

/-- What comes before an aggregate item are the items of a request with fewer aggregates. -/
theorem exists_items_eq {a : AggregateItem}
    (split : r.items = before ++ .aggregate a :: after) :
    ∃ earlier, before = { r with aggregate := earlier }.items := by
  rw [Request.items] at split
  rcases List.append_eq_append_iff.1 split with ⟨front, rfl, aggregates⟩ | ⟨back, plain, rest⟩
  · obtain ⟨earlier, -, -, rfl, -⟩ := List.map_eq_append_iff.1 aggregates
    exact ⟨earlier, rfl⟩
  · cases back with
    | nil => exact ⟨[], by rw [← List.append_nil before, ← plain]; exact (List.append_nil _).symm⟩
    | cons first back =>
        obtain ⟨rfl, -⟩ := List.cons.inj rest
        have listed : RequestItem.aggregate a ∈ r.selectItems ++ r.filterItems := by simp [plain]
        simp [Request.selectItems, Request.filterItems] at listed

/-- When the planner comes to an item, the table is served exactly if it can satisfy the item. -/
theorem exists_served_iff (sound : s.Sound) (built : t.Built)
    (split : r.items = before ++ item :: after)
    (reached : t.serveAll s o before (.start t) = some e) :
    (∃ e', (item.serve s o t e).1 = some e') ↔ t.Satisfies s o r item := by
  cases item with
  | select field =>
      simp only [serve_select, Option.map_eq_some_iff, Satisfies, ← exists_locate?_iff sound built]
      exact ⟨fun ⟨_, source, found, _⟩ => ⟨source, found⟩,
        fun ⟨source, found⟩ => ⟨_, source, found, rfl⟩⟩
  | filter item =>
      simp only [serve_filter, Option.map_eq_some_iff, Satisfies, ← exists_locate?_iff sound built]
      exact ⟨fun ⟨_, source, found, _⟩ => ⟨source, found⟩,
        fun ⟨source, found⟩ => ⟨_, source, found, rfl⟩⟩
  | aggregate item =>
      obtain ⟨earlier, rfl⟩ := exists_items_eq split
      obtain ⟨serves, rfl⟩ := serveAll_items.1 reached
      have grain : ((t.course s o { r with aggregate := earlier }).entry t).isAtGrain = true ↔
          t.AtGrain r.select := by
        rw [Course.isAtGrain_entry]
        exact isAtGrain_selected_iff built serves.select
      rw [Satisfies, ← exists_answer?_iff sound built grain]
      simp only [serve_aggregate, Option.map_eq_some_iff]
      exact ⟨fun ⟨_, record, found, _⟩ => ⟨record, found⟩,
        fun ⟨record, found⟩ => ⟨_, record, found, rfl⟩⟩

theorem satisfies_of_serveAll (sound : s.Sound) (built : t.Built)
    (split : r.items = before ++ after)
    (reached : t.serveAll s o before (.start t) = some e) :
    ∀ item ∈ before, t.Satisfies s o r item := by
  intro item listed
  obtain ⟨front, back, rfl⟩ := List.append_of_mem listed
  rw [serveAll_append] at reached
  obtain ⟨e₁, first, later⟩ := Option.bind_eq_some_iff.1 reached
  rw [serveAll, List.foldlM_cons] at later
  obtain ⟨e₂, served, -⟩ := Option.bind_eq_some_iff.1 later
  rw [List.append_assoc, List.cons_append] at split
  exact (exists_served_iff sound built split first).1 ⟨e₂, served⟩

/-- A table that is given up is reported once, with the first item that it cannot satisfy. -/
theorem exists_unsatisfied (sound : s.Sound) (member : t ∈ s.facts.values)
    (gone : (s.plan r o).live.get? t.name = none) :
    ∃ before item after, r.items = before ++ item :: after ∧
      (∀ earlier ∈ before, t.Satisfies s o r earlier) ∧ ¬ t.Satisfies s o r item ∧
      (about t.name (s.plan r o).log).filter (·.isEviction) =
        [.evicting t.name item.field item.reason] := by
  have built := sound.fact member
  rw [Schema.plan_live sound member] at gone
  obtain ⟨before, item, after, e, split, reached, refused, told⟩ := exists_refused gone
  refine ⟨before, item, after, split, satisfies_of_serveAll sound built split reached, ?_, ?_⟩
  · rw [← exists_served_iff sound built split reached, refused]
    exact nofun
  · rw [Schema.about_plan sound member, told]

end FactTable

/-! The visits of an aggregate item. -/

namespace Plan

variable {s : Schema} {o : Options}

/-- What is reported stays in the log. -/
theorem log_prefix_run (p : Plan) (steps : List PlanStep) :
    p.log <+: (steps.foldl (PlanStep.run s o) p).log := by
  induction steps generalizing p with
  | nil => exact List.prefix_rfl
  | cons step rest ih =>
      have one : p.log <+: (step.run s o p).log := by
        cases step with
        | visit item t =>
            rw [PlanStep.run, visit_log]
            exact List.prefix_append ..
        | report event => exact List.prefix_append ..
      exact one.trans (ih _)

/-- When an aggregate item has been to all tables, it has been resolved once for each of those
that are still live, and the first strategy that applies was reported. -/
theorem resolutions_apply (sound : s.Sound) (item : AggregateItem) {p : Plan}
    {events : List Event} (log : (p.apply s o (.aggregate item)).log = p.log ++ events)
    {t : FactTable} (member : t ∈ s.facts.values) :
    (∀ e', (p.apply s o (.aggregate item)).live.get? t.name = some e' →
      ∃ e strategy, p.live.get? t.name = some e ∧ strategy.IsFirst (.of s item o) t e ∧
        (about t.name events).filter (·.isResolution) =
          [.resolved t.name item.field strategy]) ∧
      ((p.apply s o (.aggregate item)).live.get? t.name = none →
        (about t.name events).filter (·.isResolution) = []) := by
  have told := about_apply sound (o := o) (.aggregate item) p member
  rw [log, about_append, List.append_cancel_left_eq] at told
  rw [told, apply_live sound p _ member]
  cases found : p.live.get? t.name with
  | none => exact ⟨nofun, fun _ => rfl⟩
  | some e =>
      rw [Option.bind_some, Option.map_some, Option.getD_some,
        FactTable.filter_isResolution_tells]
      constructor
      · intro e' served
        obtain ⟨strategy, first, -⟩ := RequestItem.serve_aggregate_eq_some_iff.1 served
        refine ⟨e, strategy, rfl, Strategy.isFirst_of_firstOf first, ?_⟩
        rw [served, FactTable.resolution?, first]
        rfl
      · intro refused
        rw [refused]

end Plan

namespace Schema

variable {s : Schema} {r : Request} {o : Options} {item : AggregateItem} {k : Nat}

/-- How many steps the planner takes before an aggregate item, if so many come before it: a report
in front of each pass, and the visits of each item to all fact tables. -/
def stepsBefore (s : Schema) (r : Request) (k : Nat) : Nat :=
  3 + (r.select.length + r.filter.length + k) * s.facts.size

theorem visits_append (front back : List RequestItem) :
    s.visits (front ++ back) = s.visits front ++ s.visits back :=
  List.flatMap_append ..

theorem length_visits (items : List RequestItem) :
    (s.visits items).length = items.length * s.facts.size := by
  induction items with
  | nil => simp [visits]
  | cons item rest ih =>
      have one : s.facts.values.length = s.facts.size := List.length_map ..
      rw [visits, List.flatMap_cons, List.length_append, List.length_map, one, List.length_cons,
        Nat.add_one_mul, Nat.add_comm]
      exact congrArg (· + _) ih

/-- The steps before the first aggregate item. -/
def opening (s : Schema) (r : Request) : List PlanStep :=
  .report (fun p => .planning p.live.size r.select.length r.filter.length r.aggregate.length) ::
  s.visits r.selectItems ++ .report (fun p => .selectsDone p.live.size) ::
  s.visits r.filterItems ++ [.report fun p => .filtersDone p.live.size]

theorem planSteps_eq (s : Schema) (r : Request) :
    s.planSteps r = s.opening r ++ (s.visits r.aggregateItems ++
      [.report fun p => .aggregatesDone p.live.size p.evicted.size]) := by
  simp only [planSteps, opening, List.cons_append, List.append_assoc, List.nil_append]

theorem length_opening (s : Schema) (r : Request) : (s.opening r).length = s.stepsBefore r 0 := by
  simp only [opening, List.length_cons, List.length_append, length_visits, List.length_map,
    List.length_nil, Request.selectItems, Request.filterItems, stepsBefore, Nat.add_mul]
  omega

theorem stepsBefore_eq (s : Schema) (r : Request) (k : Nat) :
    s.stepsBefore r k = s.stepsBefore r 0 + k * s.facts.size := by
  simp only [stepsBefore, Nat.add_mul, Nat.zero_mul]
  omega

theorem exists_planSteps_eq (listed : r.aggregate[k]? = some item) :
    ∃ front back, s.planSteps r = front ++ (s.visits [.aggregate item] ++ back) ∧
      front.length = s.stepsBefore r k := by
  obtain ⟨short, rfl⟩ := List.getElem?_eq_some_iff.1 listed
  have aggregates : r.aggregateItems = (r.aggregate.take k).map .aggregate ++
      ([.aggregate r.aggregate[k]] ++ (r.aggregate.drop (k + 1)).map .aggregate) := by
    rw [Request.aggregateItems, ← List.map_singleton, ← List.map_append, ← List.map_append,
      List.singleton_append, ← List.drop_eq_getElem_cons short, List.take_append_drop]
  refine ⟨s.opening r ++ s.visits ((r.aggregate.take k).map .aggregate),
    s.visits ((r.aggregate.drop (k + 1)).map .aggregate) ++
      [.report fun p => .aggregatesDone p.live.size p.evicted.size], ?_, ?_⟩
  · rw [planSteps_eq, aggregates, visits_append, visits_append]
    simp only [List.append_assoc]
  · rw [List.length_append, length_opening, length_visits, List.length_map,
      List.length_take_of_le (Nat.le_of_lt short), ← stepsBefore_eq]

theorem planAfter_stepsBefore_succ (listed : r.aggregate[k]? = some item) :
    s.planAfter r o (s.stepsBefore r (k + 1)) =
      (s.planAfter r o (s.stepsBefore r k)).apply s o (.aggregate item) := by
  obtain ⟨front, back, steps, length⟩ := exists_planSteps_eq (s := s) listed
  have visits : (s.visits [.aggregate item]).length = s.facts.size := by
    rw [length_visits, List.length_singleton, Nat.one_mul]
  have next : s.stepsBefore r (k + 1) = s.stepsBefore r k + s.facts.size := by
    rw [stepsBefore_eq, stepsBefore_eq s r k, Nat.add_one_mul, Nat.add_assoc]
  rw [next, planAfter_add, steps, ← length, List.drop_left, ← visits, List.take_left,
    foldl_visits]
  rfl

theorem planAfter_log_prefix (s : Schema) (r : Request) (o : Options) (n : Nat) :
    (s.planAfter r o n).log <+: (s.plan r o).log := by
  have whole : s.plan r o =
      ((s.planSteps r).drop n).foldl (PlanStep.run s o) (s.planAfter r o n) := by
    rw [← planAfter_length, planAfter, planAfter, List.take_length, ← List.foldl_append,
      List.take_append_drop]
  rw [whole]
  exact Plan.log_prefix_run ..

/-- Selects and filters resolve nothing. -/
theorem filter_isResolution_stepsBefore_zero (s : Schema) (r : Request) (o : Options) :
    (s.planAfter r o (s.stepsBefore r 0)).log.filter (·.isResolution) = [] := by
  have selects : ∀ p : Plan, (p.applyAll s o r.selectItems).log.filter (·.isResolution) =
      p.log.filter (·.isResolution) := by
    refine Plan.filter_applyAll fun item listed t e => ?_
    obtain ⟨field, -, rfl⟩ := List.mem_map.1 listed
    exact FactTable.not_isResolution_of_mem_tells nofun
  have filters : ∀ p : Plan, (p.applyAll s o r.filterItems).log.filter (·.isResolution) =
      p.log.filter (·.isResolution) := by
    refine Plan.filter_applyAll fun item listed t e => ?_
    obtain ⟨filter, -, rfl⟩ := List.mem_map.1 listed
    exact FactTable.not_isResolution_of_mem_tells nofun
  rw [planAfter, planSteps_eq, ← length_opening, List.take_left, opening, List.cons_append,
    List.cons_append, List.foldl_cons, List.append_assoc, List.foldl_append, List.cons_append,
    List.foldl_cons, List.foldl_append, foldl_visits, foldl_visits]
  show (_ ++ [_]).filter _ = []
  rw [List.filter_append, filters]
  show (_ ++ [_]).filter _ ++ _ = []
  rw [List.filter_append, selects]
  rfl

/-- After the last aggregate item there is only the last summary. -/
theorem exists_log_eq_concat (s : Schema) (r : Request) (o : Options) :
    ∃ surviving evicted, (s.plan r o).log =
      (s.planAfter r o (s.stepsBefore r r.aggregate.length)).log ++
        [.aggregatesDone surviving evicted] := by
  have length : (s.opening r ++ s.visits r.aggregateItems).length =
      s.stepsBefore r r.aggregate.length := by
    rw [List.length_append, length_opening, length_visits, Request.aggregateItems,
      List.length_map, ← stepsBefore_eq]
  rw [← planAfter_length, planAfter, planAfter, List.take_length, planSteps_eq,
    ← List.append_assoc, ← length, List.take_left, List.foldl_append]
  exact ⟨_, _, rfl⟩

/-- What the log of a plan says is so. -/
structure TruthfulLog (s : Schema) (r : Request) (o : Options) : Prop where
  /-- A table that was given up is reported once, with the first item that it cannot satisfy. -/
  evicted : ∀ table, (s.plan r o).evicted.contains table = true →
    ∃ t ∈ s.facts.values, t.name = table ∧
      ∃ before item after, r.items = before ++ item :: after ∧
        (∀ earlier ∈ before, t.Satisfies s o r earlier) ∧ ¬ t.Satisfies s o r item ∧
        (about table (s.plan r o).log).filter (·.isEviction) =
          [.evicting table item.field item.reason]
  /-- Nothing else is reported to be given up. -/
  kept : ∀ table, (s.plan r o).evicted.contains table = false →
    (about table (s.plan r o).log).filter (·.isEviction) = []
  summaries : ∃ selected filtered surviving evicted, (s.plan r o).log.filter (·.isSummary) =
    [.selectsDone selected, .filtersDone filtered, .aggregatesDone surviving evicted]
  tallied : Event.Tallied s.facts.size (s.plan r o).log
  /-- Before the first aggregate item nothing is resolved, and after the last one there is only
  the last summary. -/
  unresolved : (s.planAfter r o (s.stepsBefore r 0)).log.filter (·.isResolution) = [] ∧
    ∃ surviving evicted, (s.plan r o).log =
      (s.planAfter r o (s.stepsBefore r r.aggregate.length)).log ++
        [.aggregatesDone surviving evicted]
  /-- While an aggregate item goes to all tables, it is resolved once for each table that is live
  afterwards, by the first strategy that applies. -/
  resolved : ∀ k item, r.aggregate[k]? = some item →
    ∃ events, (s.planAfter r o (s.stepsBefore r (k + 1))).log =
        (s.planAfter r o (s.stepsBefore r k)).log ++ events ∧
      (s.planAfter r o (s.stepsBefore r (k + 1))).log <+: (s.plan r o).log ∧
      ∀ t ∈ s.facts.values,
        (∀ e', (s.planAfter r o (s.stepsBefore r (k + 1))).live.get? t.name = some e' →
          ∃ e strategy, (s.planAfter r o (s.stepsBefore r k)).live.get? t.name = some e ∧
            strategy.IsFirst (.of s item o) t e ∧
            (about t.name events).filter (·.isResolution) =
              [.resolved t.name item.field strategy]) ∧
        ((s.planAfter r o (s.stepsBefore r (k + 1))).live.get? t.name = none →
          (about t.name events).filter (·.isResolution) = [])

/-- Whatever the request, the log tells which tables were given up and for which item, how many
were left after each pass, and how each aggregate item was resolved. -/
theorem log_truthful (built : s.Built) (r : Request) (o : Options) : s.TruthfulLog r o := by
  have sound := built.sound
  have accounts := s.plan_accounts r o
  refine ⟨?_, ?_, exists_summaries s r o, (plan_reckons s r o).summaries,
    ⟨filter_isResolution_stepsBefore_zero s r o, exists_log_eq_concat s r o⟩, ?_⟩
  · intro table gone
    rw [accounts.evicted_eq, Bool.and_eq_true, Bool.not_eq_true', Keyed.contains_iff,
      Keyed.contains_eq_false_iff] at gone
    obtain ⟨⟨t, filed⟩, dead⟩ := gone
    obtain rfl := sound.factName filed
    have member : t ∈ s.facts.values := Keyed.mem_values_iff.2 ⟨_, filed⟩
    exact ⟨t, member, rfl, FactTable.exists_unsatisfied sound member dead⟩
  · intro table stays
    by_cases known : table ∈ s.facts.values.map (·.name)
    · obtain ⟨t, member, rfl⟩ := List.mem_map.1 known
      rw [plan_evicted sound member, Bool.not_eq_false', Keyed.contains_iff] at stays
      obtain ⟨e, live⟩ := stays
      rw [plan_live sound member] at live
      rw [about_plan sound member, FactTable.filter_isEviction_told live]
    · rw [about_plan_of_unknown known]
      rfl
  · intro k item listed
    have passed := planAfter_stepsBefore_succ (s := s) (o := o) listed
    obtain ⟨events, log⟩ : (s.planAfter r o (s.stepsBefore r k)).log <+:
        (s.planAfter r o (s.stepsBefore r (k + 1))).log := by
      rw [passed, show (s.planAfter r o (s.stepsBefore r k)).apply s o (.aggregate item) = _ from
        (foldl_visits [.aggregate item] _).symm]
      exact Plan.log_prefix_run ..
    refine ⟨events, log.symm, planAfter_log_prefix s r o _, fun t member => ?_⟩
    rw [passed] at log ⊢
    exact Plan.resolutions_apply sound item log.symm member

/-- The yearly sales cannot answer an average, and the log says so once. -/
theorem log_truthful_games :
    Games.star.TruthfulLog ⟨["year"], [⟨"amount", .avg⟩], []⟩ .standard ∧
      (Games.star.plan ⟨["year"], [⟨"amount", .avg⟩], []⟩ .standard).evicted.contains
        "shop.sales_by_year" = true :=
  ⟨log_truthful Games.star_built _ _, by decide +kernel⟩

end Schema

end StarPlan
