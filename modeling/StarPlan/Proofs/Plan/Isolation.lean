import StarPlan.Plan.Basic
import StarPlan.Proofs.Schema.Built

/-!
# Each fact table is planned alone

The planner runs through the items of a request and, for each of them, through the fact
tables, over one shared map of entries. For a single table the same run is a fold over the
items: `FactTable.serveAll` extends one entry until an item cannot be served.

`Schema.plan_live` says that the entry which the planner leaves for a table is the result of
that fold, and `Schema.plan_accounts` that the tables without an entry are the evicted ones.
-/

namespace StarPlan

section

variable {σ ι κ β : Type} {l : List ι}

/-- If no step changes a view of the state, no run does. -/
theorem foldl_same (view : σ → β) (step : σ → ι → σ)
    (one : ∀ x ∈ l, ∀ e, view (step e x) = view e) (e : σ) : view (l.foldl step e) = view e :=
  List.foldlRecOn (motive := fun e' => view e' = view e) l step rfl fun _ same x member =>
    (one x member _).trans same

/-- If the steps of a single key change a view of the state, a run over distinct keys changes it
once. -/
theorem foldl_once (view : σ → β) (step : σ → ι → σ) (key : ι → κ) (change : β → β)
    {x : ι} (distinct : (l.map key).Nodup) (member : x ∈ l)
    (here : ∀ e, view (step e x) = change (view e))
    (elsewhere : ∀ y ∈ l, key y ≠ key x → ∀ e, view (step e y) = view e) (e : σ) :
    view (l.foldl step e) = change (view e) := by
  obtain ⟨before, after, rfl⟩ := List.append_of_mem member
  rw [List.map_append, List.map_cons, List.nodup_append, List.nodup_cons] at distinct
  obtain ⟨-, ⟨fresh, -⟩, apart⟩ := distinct
  rw [List.foldl_append, List.foldl_cons, foldl_same view step, here, foldl_same view step]
  · intro y listed
    exact elsewhere y (List.mem_append_left _ listed)
      (apart _ (List.mem_map_of_mem listed) _ List.mem_cons_self)
  · intro y listed
    refine elsewhere y (List.mem_append_right _ (List.mem_cons_of_mem _ listed)) fun same => ?_
    exact fresh (same ▸ List.mem_map_of_mem listed)

end

/-- The items of a request in the order in which they are planned. -/
def Request.items (r : Request) : List RequestItem :=
  r.selectItems ++ r.filterItems ++ r.aggregateItems

/-- One table's entry after a list of items; none once an item cannot be served. -/
def FactTable.serveAll (schema : Schema) (options : Options) (t : FactTable)
    (items : List RequestItem) (e : Entry) : Option Entry :=
  items.foldlM (fun e item => (item.serve schema options t e).1) e

namespace Plan

variable {schema : Schema} {options : Options}

/-- Every fact table is either live or evicted, and nothing else is. -/
structure Accounts (schema : Schema) (p : Plan) : Prop where
  known : ∀ name, (p.live.contains name || p.evicted.contains name) = schema.facts.contains name
  apart : ∀ name, p.live.contains name = true → p.evicted.contains name = false

/-! Which tables are evicted is settled by which are live. -/

theorem Accounts.evicted_eq {p : Plan} (h : p.Accounts schema) (name : TableName) :
    p.evicted.contains name = (schema.facts.contains name && !p.live.contains name) := by
  have known := h.known name
  cases live : p.live.contains name with
  | true =>
      rw [h.apart name live, Bool.not_true, Bool.and_false]
  | false =>
      rw [live, Bool.false_or] at known
      rw [known, Bool.not_false, Bool.and_true]

theorem Accounts.live_of_unknown {p : Plan} (h : p.Accounts schema) {name : TableName}
    (unknown : schema.facts.contains name = false) : p.live.contains name = false :=
  (Bool.or_eq_false_iff.1 ((h.known name).trans unknown)).1

@[simp] theorem report_live (p : Plan) (events : List Event) :
    (p.report events).live = p.live := rfl

@[simp] theorem evict_live (p : Plan) (table : TableName) :
    (p.evict table).live = p.live.erase table := rfl

@[simp] theorem evict_evicted (p : Plan) (table : TableName) :
    (p.evict table).evicted = p.evicted.add table := rfl

/-! A visit passes by a table that is not live, extends its entry, or evicts it. -/

section

variable {item : RequestItem} {p : Plan} {t : FactTable} {e e' : Entry} {events : List Event}

theorem visit_absent (absent : p.live.get? t.name = none) :
    visit schema options item p t = p := by
  simp only [visit, absent]

theorem visit_served (found : p.live.get? t.name = some e)
    (served : item.serve schema options t e = (some e', events)) :
    visit schema options item p t =
      { p with live := p.live.insert t.name e' }.report events := by
  simp only [visit, found, served]

theorem visit_refused (found : p.live.get? t.name = some e)
    (refused : item.serve schema options t e = (none, events)) :
    visit schema options item p t =
      (p.evict t.name).report (events ++ [.evicting t.name item.field item.reason]) := by
  simp only [visit, found, refused]

end

theorem visit_live (item : RequestItem) (p : Plan) (t : FactTable) (name : TableName) :
    (visit schema options item p t).live.get? name =
      if name = t.name then
        (p.live.get? t.name).bind fun e => (item.serve schema options t e).1
      else p.live.get? name := by
  cases found : p.live.get? t.name with
  | none =>
      rw [visit_absent found, Option.bind_none]
      split
      · next same => rw [same, found]
      · rfl
  | some e =>
      rw [Option.bind_some]
      rcases outcome : item.serve schema options t e with ⟨_ | e', events⟩
      · rw [visit_refused found outcome]
        exact Keyed.get?_erase ..
      · rw [visit_served found outcome]
        exact Keyed.get?_insert ..

/-! No visit brings a table back, so what a visit does to one entry it does to the live ones. -/

/-- What is live in the second plan was live in the first, with an entry to which the relation
takes the old one. -/
def LiveFrom (R : Entry → Entry → Prop) (p p' : Plan) : Prop :=
  ∀ name e', p'.live.get? name = some e' → ∃ e, p.live.get? name = some e ∧ R e e'

section

variable {R : Entry → Entry → Prop} {p p' p'' : Plan}

theorem LiveFrom.refl (stays : ∀ e, R e e) (p : Plan) : LiveFrom R p p :=
  fun _ e live => ⟨e, live, stays e⟩

theorem LiveFrom.trans (chains : ∀ {e e' e''}, R e e' → R e' e'' → R e e'')
    (h : LiveFrom R p p') (h' : LiveFrom R p' p'') : LiveFrom R p p'' := by
  intro name e'' live''
  obtain ⟨e', live', later⟩ := h' name e'' live''
  obtain ⟨e, live, first⟩ := h name e' live'
  exact ⟨e, live, chains first later⟩

theorem liveFrom_visit {item : RequestItem} {t : FactTable} (stays : ∀ e, R e e)
    (served : ∀ {e e'}, (item.serve schema options t e).1 = some e' → R e e') (p : Plan) :
    LiveFrom R p (visit schema options item p t) := by
  intro name e' live
  rw [visit_live] at live
  split at live
  · next same =>
    obtain ⟨e, before, answered⟩ := Option.bind_eq_some_iff.1 live
    exact ⟨e, same ▸ before, served answered⟩
  · exact ⟨e', live, stays e'⟩

end

/-! A visit keeps every table accounted for. -/

theorem Accounts.report {p : Plan} (h : p.Accounts schema) (events : List Event) :
    (p.report events).Accounts schema :=
  ⟨h.known, h.apart⟩

theorem Accounts.insert {p : Plan} (h : p.Accounts schema) {table : TableName}
    (live : p.live.contains table = true) (e : Entry) :
    Accounts schema { p with live := p.live.insert table e } := by
  have same : ∀ name, (p.live.insert table e).contains name = p.live.contains name := by
    intro name
    rw [Keyed.contains_insert]
    by_cases same : name = table
    · simp [same, live]
    · simp [same]
  constructor
  · intro name
    rw [same]
    exact h.known name
  · intro name
    rw [same]
    exact h.apart name

theorem Accounts.evict {p : Plan} (h : p.Accounts schema) {table : TableName}
    (live : p.live.contains table = true) : (p.evict table).Accounts schema := by
  constructor
  · intro name
    rw [evict_live, evict_evicted, Names.add, Keyed.contains_erase, Keyed.contains_insert]
    by_cases same : name = table
    · have known := h.known table
      rw [live, Bool.true_or] at known
      simp [same, ← known]
    · have other : (name != table) = true := bne_iff_ne.2 same
      have other' : (name == table) = false := beq_eq_false_iff_ne.2 same
      rw [other, other', Bool.true_and, Bool.false_or]
      exact h.known name
  · intro name
    rw [evict_live, evict_evicted, Names.add, Keyed.contains_erase, Keyed.contains_insert]
    by_cases same : name = table
    · simp [same]
    · simpa [same] using h.apart name

theorem visit_accounts {p : Plan} (h : p.Accounts schema) (item : RequestItem) (t : FactTable) :
    (visit schema options item p t).Accounts schema := by
  cases found : p.live.get? t.name with
  | none => rwa [visit_absent found]
  | some e =>
      have live : p.live.contains t.name = true := Keyed.contains_iff.2 ⟨e, found⟩
      rcases outcome : item.serve schema options t e with ⟨_ | e', events⟩
      · rw [visit_refused found outcome]
        exact (h.evict live).report _
      · rw [visit_served found outcome]
        exact (h.insert live e').report _

/-- Visiting tables of distinct names reaches each of them once. -/
theorem foldl_visit_live (item : RequestItem) (tables : List FactTable)
    (distinct : (tables.map (·.name)).Nodup) (p : Plan) {t : FactTable} (member : t ∈ tables) :
    (tables.foldl (visit schema options item) p).live.get? t.name =
      (p.live.get? t.name).bind fun e => (item.serve schema options t e).1 := by
  refine foldl_once (fun p : Plan => p.live.get? t.name) _ (·.name)
    (·.bind fun e => (item.serve schema options t e).1) distinct member ?_ ?_ p
  · intro p
    rw [visit_live, if_pos rfl]
  · intro u _ differs p
    rw [visit_live, if_neg differs.symm]

theorem foldl_visit_accounts {p : Plan} (h : p.Accounts schema) (item : RequestItem)
    (tables : List FactTable) :
    (tables.foldl (visit schema options item) p).Accounts schema := by
  induction tables generalizing p with
  | nil => exact h
  | cons t rest ih => exact ih (visit_accounts h item t)

theorem apply_live (sound : schema.Sound) (p : Plan) (item : RequestItem) {t : FactTable}
    (member : t ∈ schema.facts.values) :
    (p.apply schema options item).live.get? t.name =
      (p.live.get? t.name).bind fun e => (item.serve schema options t e).1 := by
  have named : schema.facts.values.map (·.name) = schema.facts.entries.map (·.1) := by
    rw [Keyed.values, List.map_map]
    apply List.map_congr_left
    intro entry listed
    exact sound.factName (Keyed.get?_eq_some_iff.2 listed)
  exact foldl_visit_live item _ (named ▸ schema.facts.nodup_names) p member

theorem applyAll_live (sound : schema.Sound) (items : List RequestItem) (p : Plan)
    {t : FactTable} (member : t ∈ schema.facts.values) :
    (p.applyAll schema options items).live.get? t.name =
      (p.live.get? t.name).bind (t.serveAll schema options items) := by
  induction items generalizing p with
  | nil =>
      show p.live.get? t.name = (p.live.get? t.name).bind some
      cases p.live.get? t.name <;> rfl
  | cons item rest ih =>
      show ((p.apply schema options item).applyAll schema options rest).live.get? t.name = _
      rw [ih, apply_live sound p item member, Option.bind_assoc]
      rfl

theorem applyAll_accounts {p : Plan} (h : p.Accounts schema) (options : Options)
    (items : List RequestItem) :
    (p.applyAll schema options items).Accounts schema := by
  induction items generalizing p with
  | nil => exact h
  | cons item rest ih => exact ih (foldl_visit_accounts h item _)

theorem start_live (schema : Schema) (name : TableName) :
    (start schema).live.get? name = (schema.facts.get? name).map Entry.start :=
  Keyed.get?_mapValues ..

theorem start_accounts (schema : Schema) : (start schema).Accounts schema := by
  constructor
  · intro name
    rw [Keyed.contains, start_live, Option.isSome_map]
    exact Bool.or_false _
  · intro name _
    rfl

end Plan

namespace FactTable

variable {schema : Schema} {options : Options} {t : FactTable}

theorem serveAll_append (front back : List RequestItem) (e : Entry) :
    t.serveAll schema options (front ++ back) e =
      (t.serveAll schema options front e).bind (t.serveAll schema options back) :=
  List.foldlM_append ..

end FactTable

namespace Schema

variable {schema : Schema} {t : FactTable}

/-- Three folds with reports between them are one fold over all items. -/
theorem plan_live (sound : schema.Sound) (member : t ∈ schema.facts.values)
    (request : Request) (options : Options) :
    (schema.plan request options).live.get? t.name =
      t.serveAll schema options request.items (.start t) := by
  unfold plan
  simp only [Plan.report_live]
  rw [Plan.applyAll_live sound _ _ member, Plan.report_live,
    Plan.applyAll_live sound _ _ member, Plan.report_live,
    Plan.applyAll_live sound _ _ member, Plan.report_live, Plan.start_live,
    sound.get?_fact member, Request.items, FactTable.serveAll_append,
    FactTable.serveAll_append]
  rfl

theorem plan_accounts (request : Request) (options : Options) :
    (schema.plan request options).Accounts schema := by
  have opened := (Plan.start_accounts schema).report
  have selected := fun events =>
    (Plan.applyAll_accounts (opened events) options request.selectItems).report
  have filtered := fun events events' =>
    (Plan.applyAll_accounts (selected events events') options request.filterItems).report
  exact (Plan.applyAll_accounts (filtered _ _ _) options request.aggregateItems).report _

theorem plan_evicted (sound : schema.Sound) (member : t ∈ schema.facts.values)
    (request : Request) (options : Options) :
    (schema.plan request options).evicted.contains t.name =
      !(schema.plan request options).live.contains t.name := by
  have known : schema.facts.contains t.name = true :=
    Keyed.contains_iff.2 ⟨t, sound.get?_fact member⟩
  rw [(schema.plan_accounts request options).evicted_eq, known, Bool.true_and]

/-- A name that is live is that of a fact table. -/
theorem exists_fact_of_live (sound : schema.Sound) {request : Request} {options : Options}
    {name : TableName} {e : Entry}
    (live : (schema.plan request options).live.get? name = some e) :
    ∃ t ∈ schema.facts.values, t.name = name := by
  have known := (schema.plan_accounts request options).known name
  rw [Keyed.contains_iff.2 ⟨e, live⟩, Bool.true_or, eq_comm, Keyed.contains_iff] at known
  obtain ⟨t, found⟩ := known
  exact ⟨t, Keyed.mem_values_iff.2 ⟨name, found⟩, sound.factName found⟩

end Schema

end StarPlan
