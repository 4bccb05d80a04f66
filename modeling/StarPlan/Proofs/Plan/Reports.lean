import StarPlan.Proofs.Plan.Growth
import StarPlan.Proofs.Plan.Survival
import StarPlan.Proofs.Schema.Consistent

/-!
# What is reported about one table

The planner reports while it runs through the items of a request and, for each of them, through
the fact tables. Of these reports the ones about one table are those of planning this table
alone: `FactTable.told` runs through the items for one entry, and `Schema.about_plan` says that
the log of a plan holds exactly these reports about the table.

A visit reports which strategies were refused, and then at most one verdict
(`FactTable.exists_tells_eq`). So a table that serves every item is never given up in the log, and
one that does not is given up once, for the first item that it cannot serve.
-/

namespace StarPlan

namespace Event

/-- The table that a report is about. -/
def table? : Event → Option TableName
  | evicting table .. | resolved table .. | notReaggregable table .. => some table
  | _ => none

/-- Whether a table is given up. -/
def isEviction : Event → Bool
  | evicting .. => true
  | _ => false

/-- Whether an aggregate item is resolved. -/
def isResolution : Event → Bool
  | resolved .. => true
  | _ => false

/-- Whether the tables left by a pass are counted. -/
def isSummary : Event → Bool
  | selectsDone .. | filtersDone .. | aggregatesDone .. => true
  | _ => false

end Event

/-- The reports about one table. -/
def about (table : TableName) (log : List Event) : List Event :=
  log.filter fun event => event.table? == some table

section

variable {table : TableName} {log log' : List Event}

theorem about_append : about table (log ++ log') = about table log ++ about table log' :=
  List.filter_append ..

theorem about_eq_self (own : ∀ event ∈ log, event.table? = some table) :
    about table log = log :=
  List.filter_eq_self.2 fun event listed => by rw [own event listed, beq_self_eq_true]

theorem about_eq_nil (none : ∀ event ∈ log, event.table? ≠ some table) : about table log = [] :=
  List.filter_eq_nil_iff.2 fun event listed => by simpa using none event listed

end

/-- A strategy applies, and none of those that are tried before it does. -/
def Strategy.IsFirst (context : AggregateContext) (t : FactTable) (e : Entry)
    (strategy : Strategy) : Prop :=
  ∃ earlier later, Strategy.order = earlier ++ strategy :: later ∧
    (strategy.resolve context t e).resolution = .resolved ∧
    ∀ other ∈ earlier, (other.resolve context t e).resolution = .notApplicable

theorem Strategy.isFirst_of_firstOf {context : AggregateContext} {t : FactTable} {e : Entry}
    {strategy : Strategy} (found : (firstOf context t order e).strategy = some strategy) :
    strategy.IsFirst context t e := by
  rw [(firstOf_takesUp context t e order).strategy, Option.map_eq_some_iff] at found
  obtain ⟨⟨_, record⟩, first, rfl⟩ := found
  have answers := record?_of_first? first
  obtain ⟨earlier, applied, later, listed, applies, refused⟩ := List.findSome?_eq_some_iff.1 first
  obtain ⟨record', -, same⟩ := Option.map_eq_some_iff.1 applies
  obtain ⟨rfl, rfl⟩ := Prod.mk.inj same
  refine ⟨earlier, later, listed, ?_, fun other member => ?_⟩
  · rw [(resolve_takesUp context t e applied).resolution_eq, answers]
    rfl
  · have none := Option.map_eq_none_iff.1 (refused other member)
    rw [(resolve_takesUp context t e other).resolution_eq, none]
    rfl

namespace FactTable

/-- What is reported about a live table that an item visits. -/
def tells (s : Schema) (o : Options) (t : FactTable) (item : RequestItem) (e : Entry) :
    List Event :=
  match item.serve s o t e with
  | (some _, events) => events
  | (none, events) => events ++ [.evicting t.name item.field item.reason]

/-- What is reported about a table with a given entry while a list of items visits it. -/
def told (s : Schema) (o : Options) (t : FactTable) : List RequestItem → Entry → List Event
  | [], _ => []
  | item :: rest, e =>
    t.tells s o item e ++ ((item.serve s o t e).1.map (t.told s o rest)).getD []

/-- The strategy by which an item is resolved for a table, as it is reported. -/
def resolution? (s : Schema) (o : Options) (t : FactTable) (e : Entry) :
    RequestItem → Option Event
  | .aggregate item =>
    (Strategy.firstOf (.of s item o) t Strategy.order e).strategy.map
      (.resolved t.name item.field ·)
  | _ => none

variable {s : Schema} {o : Options} {t : FactTable} {item : RequestItem} {e e' : Entry}
variable {event : Event}

/-- The reports of a visit: refusals, and then that the item is resolved or the table given
up. -/
theorem exists_tells_eq (s : Schema) (o : Options) (t : FactTable) (item : RequestItem)
    (e : Entry) :
    ∃ refusals, (∀ event ∈ refusals, event.IsRefusal t.name) ∧
      t.tells s o item e = refusals ++ match (item.serve s o t e).1 with
        | some _ => (t.resolution? s o e item).toList
        | none => [.evicting t.name item.field item.reason] := by
  cases item with
  | select field =>
      refine ⟨[], nofun, ?_⟩
      rw [tells, RequestItem.serve]
      cases (t.source? field (s.lookupDimension field)).map (e.select field) <;> rfl
  | filter item =>
      refine ⟨[], nofun, ?_⟩
      rw [tells, RequestItem.serve]
      cases (t.source? item.field (s.lookupDimension item.field)).map (e.filter item) <;> rfl
  | aggregate item =>
      refine ⟨(Strategy.firstOf (.of s item o) t Strategy.order e).report,
        (Strategy.firstOf_takesUp (.of s item o) t e Strategy.order).report, ?_⟩
      rw [tells, RequestItem.serve, resolution?]
      rcases Strategy.firstOf (.of s item o) t Strategy.order e with
        ⟨_ | strategy, entry, report⟩ <;> rfl

/-- A visit reports neither summaries nor anything about other tables. -/
theorem tells_about (told : event ∈ t.tells s o item e) :
    event.table? = some t.name ∧ event.isSummary = false := by
  obtain ⟨refusals, refused, eq⟩ := t.exists_tells_eq s o item e
  rw [eq] at told
  rcases List.mem_append.1 told with refusal | verdict
  · obtain ⟨lookup, baked, requested, rfl⟩ := refused event refusal
    exact ⟨rfl, rfl⟩
  · split at verdict
    · cases item with
      | select field | filter item => cases verdict
      | aggregate item =>
          obtain ⟨found, -, rfl⟩ := Option.map_eq_some_iff.1 (Option.mem_toList.1 verdict)
          exact ⟨rfl, rfl⟩
    · rw [List.mem_singleton.1 verdict]
      exact ⟨rfl, rfl⟩

/-- Of a kind of reports that no refusal is of, only the outcome of a visit is. -/
theorem filter_tells {kind : Event → Bool}
    (quiet : ∀ event : Event, event.IsRefusal t.name → kind event = false) :
    (t.tells s o item e).filter kind = (match (item.serve s o t e).1 with
      | some _ => (t.resolution? s o e item).toList
      | none => [.evicting t.name item.field item.reason]).filter kind := by
  obtain ⟨refusals, refused, eq⟩ := t.exists_tells_eq s o item e
  have none : refusals.filter kind = [] := List.filter_eq_nil_iff.2 fun event listed => by
    simp [quiet event (refused event listed)]
  rw [eq, List.filter_append, none, List.nil_append]

theorem filter_isEviction_tells :
    (t.tells s o item e).filter (·.isEviction) = match (item.serve s o t e).1 with
      | some _ => []
      | none => [.evicting t.name item.field item.reason] := by
  rw [filter_tells (by rintro _ ⟨_, _, _, rfl⟩; rfl)]
  split
  · cases item with
    | select field | filter item => rfl
    | aggregate item =>
        rw [resolution?]
        cases (Strategy.firstOf (.of s item o) t Strategy.order e).strategy <;> rfl
  · rfl

theorem filter_isResolution_tells :
    (t.tells s o item e).filter (·.isResolution) = match (item.serve s o t e).1 with
      | some _ => (t.resolution? s o e item).toList
      | none => [] := by
  rw [filter_tells (by rintro _ ⟨_, _, _, rfl⟩; rfl)]
  split
  · cases item with
    | select field | filter item => rfl
    | aggregate item =>
        rw [resolution?]
        cases (Strategy.firstOf (.of s item o) t Strategy.order e).strategy <;> rfl
  · rfl

/-- Only aggregate items are resolved. -/
theorem not_isResolution_of_mem_tells (plain : ∀ a, item ≠ .aggregate a) :
    ∀ event ∈ t.tells s o item e, event.isResolution = false := by
  have quiet : (t.tells s o item e).filter (·.isResolution) = [] := by
    rw [filter_isResolution_tells]
    cases item with
    | select field | filter item => split <;> rfl
    | aggregate a => exact absurd rfl (plain a)
  exact fun event told => Bool.eq_false_iff.2 (List.filter_eq_nil_iff.1 quiet event told)

theorem told_append (front back : List RequestItem) (e : Entry) :
    t.told s o (front ++ back) e =
      t.told s o front e ++ ((t.serveAll s o front e).map (t.told s o back)).getD [] := by
  induction front generalizing e with
  | nil => rfl
  | cons item rest ih =>
      rw [List.cons_append, told, told, serveAll, List.foldlM_cons, List.append_assoc]
      cases (item.serve s o t e).1 with
      | none => rfl
      | some e' => exact congrArg (_ ++ ·) (ih e')

/-- A table that serves all items is not given up, -/
theorem filter_isEviction_told {items : List RequestItem}
    (served : t.serveAll s o items e = some e') :
    (t.told s o items e).filter (·.isEviction) = [] := by
  induction items generalizing e with
  | nil => rfl
  | cons item rest ih =>
      rw [serveAll, List.foldlM_cons] at served
      obtain ⟨next, first, later⟩ := Option.bind_eq_some_iff.1 served
      rw [told, List.filter_append, filter_isEviction_tells, first]
      exact ih later

/-- and one that does not is given up once, for the first item that it cannot serve. -/
theorem exists_refused {items : List RequestItem} (refused : t.serveAll s o items e = none) :
    ∃ before item after e', items = before ++ item :: after ∧
      t.serveAll s o before e = some e' ∧ (item.serve s o t e').1 = none ∧
      (t.told s o items e).filter (·.isEviction) =
        [.evicting t.name item.field item.reason] := by
  induction items generalizing e with
  | nil => cases refused
  | cons item rest ih =>
      rw [told, List.filter_append, filter_isEviction_tells]
      cases first : (item.serve s o t e).1 with
      | none => exact ⟨[], item, rest, e, rfl, rfl, first, rfl⟩
      | some next =>
          have later : t.serveAll s o rest next = none := by
            rwa [serveAll, List.foldlM_cons, first] at refused
          obtain ⟨before, item', after, e', rfl, served, stuck, told⟩ := ih later
          refine ⟨item :: before, item', after, e', rfl, ?_, stuck, told⟩
          rwa [serveAll, List.foldlM_cons, first]

end FactTable

namespace Plan

variable {s : Schema} {o : Options} {t u : FactTable} {p : Plan}

theorem visit_log (item : RequestItem) (p : Plan) (t : FactTable) :
    (visit s o item p t).log = p.log ++ ((p.live.get? t.name).map (t.tells s o item)).getD [] := by
  cases found : p.live.get? t.name with
  | none => rw [visit_absent found, Option.map_none, Option.getD_none, List.append_nil]
  | some e =>
      rw [Option.map_some, Option.getD_some, FactTable.tells]
      rcases outcome : item.serve s o t e with ⟨_ | e', events⟩
      · rw [visit_refused found outcome]
        rfl
      · rw [visit_served found outcome]
        rfl

theorem about_visit (item : RequestItem) (p : Plan) (t : FactTable) :
    about t.name (visit s o item p t).log =
      about t.name p.log ++ ((p.live.get? t.name).map (t.tells s o item)).getD [] := by
  rw [visit_log, about_append]
  refine congrArg (_ ++ ·) (about_eq_self ?_)
  cases p.live.get? t.name with
  | none => exact nofun
  | some e => exact fun event told => (FactTable.tells_about told).1

theorem about_visit_of_ne {table : TableName} (item : RequestItem) (p : Plan)
    (differs : u.name ≠ table) :
    about table (visit s o item p u).log = about table p.log := by
  rw [visit_log, about_append]
  have none : about table (((p.live.get? u.name).map (u.tells s o item)).getD []) = [] := by
    refine about_eq_nil ?_
    cases p.live.get? u.name with
    | none => exact nofun
    | some e =>
        intro event told same
        rw [(FactTable.tells_about told).1, Option.some.injEq] at same
        exact differs same
  rw [none, List.append_nil]

theorem about_foldl_visit_of_not_mem {table : TableName} (item : RequestItem)
    (tables : List FactTable) (absent : table ∉ tables.map (·.name)) (p : Plan) :
    about table (tables.foldl (visit s o item) p).log = about table p.log := by
  refine foldl_same (fun p : Plan => about table p.log) _ (fun u listed p => ?_) p
  refine about_visit_of_ne item p fun same => ?_
  exact absent (same ▸ List.mem_map_of_mem listed)

/-- Of the visits to tables of distinct names, one tells something about a table. -/
theorem about_foldl_visit (item : RequestItem) (tables : List FactTable)
    (distinct : (tables.map (·.name)).Nodup) (p : Plan) (member : t ∈ tables) :
    about t.name (tables.foldl (visit s o item) p).log =
      about t.name p.log ++ ((p.live.get? t.name).map (t.tells s o item)).getD [] := by
  -- What a visit tells depends on the entry, so the log and the entry are followed together.
  refine congrArg Prod.fst (foldl_once
    (fun p : Plan => (about t.name p.log, p.live.get? t.name)) (visit s o item) (·.name)
    (fun (log, live) => (log ++ (live.map (t.tells s o item)).getD [],
      live.bind fun e => (item.serve s o t e).1)) distinct member ?_ ?_ p)
  · intro p
    rw [about_visit, visit_live, if_pos rfl]
  · intro u _ differs p
    rw [about_visit_of_ne item p differs, visit_live, if_neg differs.symm]

theorem about_apply (sound : s.Sound) (item : RequestItem) (p : Plan)
    (member : t ∈ s.facts.values) :
    about t.name (p.apply s o item).log =
      about t.name p.log ++ ((p.live.get? t.name).map (t.tells s o item)).getD [] :=
  about_foldl_visit item _ (List.nodup_append.1 sound.nodup_names).1 p member

theorem about_applyAll (sound : s.Sound) (items : List RequestItem) (p : Plan)
    (member : t ∈ s.facts.values) :
    about t.name (p.applyAll s o items).log =
      about t.name p.log ++ ((p.live.get? t.name).map (t.told s o items)).getD [] := by
  induction items generalizing p with
  | nil =>
      show about t.name p.log = _
      cases p.live.get? t.name <;> exact (List.append_nil _).symm
  | cons item rest ih =>
      show about t.name ((p.apply s o item).applyAll s o rest).log = _
      rw [ih, about_apply sound item p member, apply_live sound p item member, List.append_assoc]
      cases p.live.get? t.name with
      | none => rfl
      | some e => rfl

theorem about_applyAll_of_unknown {table : TableName}
    (unknown : table ∉ s.facts.values.map (·.name)) (items : List RequestItem) (p : Plan) :
    about table (p.applyAll s o items).log = about table p.log := by
  induction items generalizing p with
  | nil => rfl
  | cons item rest ih =>
      show about table ((p.apply s o item).applyAll s o rest).log = _
      rw [ih]
      exact about_foldl_visit_of_not_mem item _ unknown p

theorem about_report (table : TableName) (p : Plan) {event : Event} (none : event.table? = none) :
    about table (p.report [event]).log = about table p.log := by
  show about table (p.log ++ [event]) = _
  have silent : about table [event] = [] := about_eq_nil fun other listed => by
    rw [List.mem_singleton.1 listed, none]
    exact nofun
  rw [about_append, silent, List.append_nil]

end Plan

namespace Schema

variable {s : Schema}

/-- The log of a plan tells of each fact table what planning this table alone tells. -/
theorem about_plan (sound : s.Sound) {t : FactTable}
    (member : t ∈ s.facts.values) (r : Request) (o : Options) :
    about t.name (s.plan r o).log = t.told s o r.items (.start t) := by
  unfold plan
  rw [Plan.about_report _ _ rfl, Plan.about_applyAll sound _ _ member,
    Plan.about_report _ _ rfl, Plan.about_applyAll sound _ _ member,
    Plan.about_report _ _ rfl, Plan.about_applyAll sound _ _ member,
    Plan.about_report _ _ rfl]
  simp only [Plan.report_live, Plan.applyAll_live sound _ _ member, Plan.start_live,
    sound.get?_fact member, Option.map_some, Option.bind_some, Option.getD_some, Request.items,
    FactTable.told_append, FactTable.serveAll_append]
  rfl

/-- Of nothing else the log tells. -/
theorem about_plan_of_unknown {table : TableName}
    (unknown : table ∉ s.facts.values.map (·.name)) (r : Request) (o : Options) :
    about table (s.plan r o).log = [] := by
  unfold plan
  rw [Plan.about_report _ _ rfl, Plan.about_applyAll_of_unknown unknown,
    Plan.about_report _ _ rfl, Plan.about_applyAll_of_unknown unknown,
    Plan.about_report _ _ rfl, Plan.about_applyAll_of_unknown unknown,
    Plan.about_report _ _ rfl]
  rfl

end Schema

end StarPlan
