import StarPlan.Proofs.Plan.Grain

/-!
# What the entry of a course contains

Each decision of a course adds at most one thing to each part of the entry. So every part of
the final entry lists, in the order of the request, what the decisions have for it: the plain
columns (`Course.entry_selects`), the aggregates (`Course.entry_aggregations`), the items of
each joined dimension and the conditions on each column.
-/

namespace StarPlan

/-- The value of a pair, if it stands under a name. -/
def under {α : Type} (name : String) (p : String × α) : Option α :=
  if p.1 = name then some p.2 else none

section

variable {σ ι β : Type}

/-- If every step appends at most one thing to a view of the state, a run appends these in
order. -/
theorem foldl_collects (view : σ → List β) (step : σ → ι → σ) (more : ι → Option β)
    (one : ∀ e x, view (step e x) = view e ++ (more x).toList) (l : List ι) (e : σ) :
    view (l.foldl step e) = view e ++ l.filterMap more := by
  induction l generalizing e with
  | nil => exact (List.append_nil _).symm
  | cons x rest ih =>
      rw [List.foldl_cons, ih, one, List.append_assoc]
      cases found : more x with
      | none => rw [List.filterMap_cons_none found, Option.toList_none, List.nil_append]
      | some y =>
          rw [List.filterMap_cons_some found, Option.toList_some, List.cons_append,
            List.nil_append]

/-- If a step can only switch a view of the state on, a run does so if one of its steps does. -/
theorem foldl_switches (view : σ → Bool) (step : σ → ι → σ) (hit : ι → Bool)
    (one : ∀ e x, view (step e x) = (view e || hit x)) (l : List ι) (e : σ) :
    view (l.foldl step e) = (view e || l.any hit) := by
  induction l generalizing e with
  | nil => exact (Bool.or_false _).symm
  | cons x rest ih => rw [List.foldl_cons, ih, one, List.any_cons, Bool.or_assoc]

end

namespace Keyed

variable {α : Type}

/-- The items of a dimension's group, of which there are none without a group. -/
def itemsOf (groups : Keyed (JoinGroup α)) (table : TableName) : List α :=
  ((groups.get? table).map (·.items)).getD []

theorem itemsOf_addToGroup (groups : Keyed (JoinGroup α)) (table other : TableName)
    (keys : JoinKeys) (item : α) :
    (groups.addToGroup table keys item).itemsOf other =
      groups.itemsOf other ++ (under other (table, item)).toList := by
  rw [itemsOf, addToGroup, get?_alter, under]
  by_cases same : other = table
  · subst same
    cases found : groups.get? other <;> simp [itemsOf, found]
  · simp [itemsOf, same, Ne.symm same]

end Keyed

namespace FieldSource

/-- The column of the fact table that a selected field hands out. -/
def ownSelect? (field : Alias) : FieldSource → Option PlainSelect
  | native f => some ⟨f.column, field, none⟩
  | joined .. => none

/-- The column of a dimension that a selected field hands out. -/
def joinedSelect? (field : Alias) : FieldSource → Option (TableName × JoinedField)
  | native _ => none
  | joined d _ => some (d.table.name, ⟨d.field.column, field⟩)

/-- The condition of a filter on a column of the fact table. -/
def ownFilter? (item : FilterItem) : FieldSource → Option (String × Condition)
  | native f => some (f.column, ⟨item.op, item.condition⟩)
  | joined .. => none

/-- The condition of a filter on a column of a dimension. -/
def joinedFilter? (item : FilterItem) : FieldSource → Option (TableName × JoinedCondition)
  | native _ => none
  | joined d _ => some (d.table.name, ⟨d.field.column, ⟨item.op, item.condition⟩⟩)

end FieldSource

namespace AggregateRecord

/-- The stored column that is handed out. -/
def ready? : AggregateRecord → Option PlainSelect
  | ready s => some s
  | _ => none

/-- The aggregate over a column of the fact table. -/
def inPlace? : AggregateRecord → Option Aggregation
  | inPlace a => some a
  | _ => none

/-- The aggregate over a column of a dimension. -/
def joined? : AggregateRecord → Option (TableName × Aggregation)
  | joined table _ a => some (table, a)
  | _ => none

end AggregateRecord

namespace Entry

/-- The conditions on a column of the fact table. -/
def conditionsOn (e : Entry) (column : String) : List Condition :=
  (e.ownFilters.get? column).getD []

theorem hasAggregation_iff (e : Entry) :
    e.hasAggregation = true ↔
      e.aggregations ≠ [] ∨ ∃ table, e.joinAggregations.itemsOf table ≠ [] := by
  have own : (!e.aggregations.isEmpty) = true ↔ e.aggregations ≠ [] := by
    cases e.aggregations <;> simp
  have joined : (e.joinAggregations.values.any fun g => !g.items.isEmpty) = true ↔
      ∃ table, e.joinAggregations.itemsOf table ≠ [] := by
    rw [List.any_eq_true]
    constructor
    · rintro ⟨g, member, filled⟩
      obtain ⟨table, found⟩ := Keyed.mem_values_iff.1 member
      refine ⟨table, ?_⟩
      rw [Keyed.itemsOf, found]
      simpa using filled
    · rintro ⟨table, filled⟩
      rw [Keyed.itemsOf] at filled
      cases found : e.joinAggregations.get? table with
      | none => simp [found] at filled
      | some g =>
          rw [found] at filled
          exact ⟨g, Keyed.mem_values_iff.2 ⟨table, found⟩, by simpa using filled⟩
  rw [hasAggregation, Bool.or_eq_true, own, joined]

theorem selectAll_selects (e : Entry) (l : List (Alias × FieldSource)) :
    (e.selectAll l).selects = e.selects ++ l.filterMap fun p => p.2.ownSelect? p.1 := by
  refine foldl_collects Entry.selects _ _ ?_ l e
  rintro e ⟨field, f | ⟨d, keys⟩⟩
  · rfl
  · exact (List.append_nil _).symm

theorem selectAll_itemsOf (e : Entry) (l : List (Alias × FieldSource)) (table : TableName) :
    (e.selectAll l).joinSelects.itemsOf table =
      e.joinSelects.itemsOf table ++
        l.filterMap fun p => (p.2.joinedSelect? p.1).bind (under table) := by
  refine foldl_collects (fun e : Entry => e.joinSelects.itemsOf table) _ _ ?_ l e
  rintro e ⟨field, f | ⟨d, keys⟩⟩
  · exact (List.append_nil _).symm
  · exact Keyed.itemsOf_addToGroup ..

theorem filterAll_itemsOf (e : Entry) (l : List (FilterItem × FieldSource)) (table : TableName) :
    (e.filterAll l).joinFilters.itemsOf table =
      e.joinFilters.itemsOf table ++
        l.filterMap fun p => (p.2.joinedFilter? p.1).bind (under table) := by
  refine foldl_collects (fun e : Entry => e.joinFilters.itemsOf table) _ _ ?_ l e
  rintro e ⟨item, f | ⟨d, keys⟩⟩
  · exact (List.append_nil _).symm
  · exact Keyed.itemsOf_addToGroup ..

theorem filterAll_conditionsOn (e : Entry) (l : List (FilterItem × FieldSource))
    (column : String) :
    (e.filterAll l).conditionsOn column =
      e.conditionsOn column ++ l.filterMap fun p => (p.2.ownFilter? p.1).bind (under column) := by
  refine foldl_collects (fun e : Entry => e.conditionsOn column) _ _ ?_ l e
  rintro e ⟨item, f | ⟨d, keys⟩⟩
  · show ((e.ownFilters.alter f.column _).get? column).getD [] = _
    rw [Keyed.get?_alter, conditionsOn, FieldSource.ownFilter?, Option.bind_some, under]
    by_cases same : column = f.column
    · simp [same]
    · simp [same, Ne.symm same]
  · exact (List.append_nil _).symm

theorem filterAll_contains (e : Entry) (l : List (FilterItem × FieldSource)) (column : String) :
    (e.filterAll l).ownFilters.contains column =
      (e.ownFilters.contains column ||
        l.any fun p => ((p.2.ownFilter? p.1).bind (under column)).isSome) := by
  refine foldl_switches (fun e : Entry => e.ownFilters.contains column) _ _ ?_ l e
  rintro e ⟨item, f | ⟨d, keys⟩⟩
  · show (e.ownFilters.alter f.column _).contains column = _
    rw [Keyed.alter, Keyed.contains_insert, FieldSource.ownFilter?, Option.bind_some, under]
    by_cases same : column = f.column
    · simp [same]
    · simp [same, Ne.symm same]
  · exact (Bool.or_false _).symm

theorem recordAll_selects (e : Entry) (l : List (AggregateItem × AggregateRecord)) :
    (e.recordAll l).selects = e.selects ++ l.filterMap (·.2.ready?) := by
  refine foldl_collects Entry.selects _ _ ?_ l e
  rintro e ⟨item, s | a | ⟨table, keys, a⟩⟩
  · rfl
  · exact (List.append_nil _).symm
  · exact (List.append_nil _).symm

theorem recordAll_aggregations (e : Entry) (l : List (AggregateItem × AggregateRecord)) :
    (e.recordAll l).aggregations = e.aggregations ++ l.filterMap (·.2.inPlace?) := by
  refine foldl_collects Entry.aggregations _ _ ?_ l e
  rintro e ⟨item, s | a | ⟨table, keys, a⟩⟩
  · exact (List.append_nil _).symm
  · rfl
  · exact (List.append_nil _).symm

theorem recordAll_itemsOf (e : Entry) (l : List (AggregateItem × AggregateRecord))
    (table : TableName) :
    (e.recordAll l).joinAggregations.itemsOf table =
      e.joinAggregations.itemsOf table ++
        l.filterMap fun p => p.2.joined?.bind (under table) := by
  refine foldl_collects (fun e : Entry => e.joinAggregations.itemsOf table) _ _ ?_ l e
  rintro e ⟨item, s | a | ⟨joined, keys, a⟩⟩
  · exact (List.append_nil _).symm
  · exact (List.append_nil _).symm
  · exact Keyed.itemsOf_addToGroup ..

end Entry

namespace Course

variable (c : Course) (t : FactTable)

theorem entry_selects :
    (c.entry t).selects =
      c.selects.filterMap (fun p => p.2.ownSelect? p.1) ++ c.records.filterMap (·.2.ready?) := by
  rw [entry, Entry.recordAll_selects, Entry.filterAll_frame]
  exact congrArg (· ++ _) (Entry.selectAll_selects ..)

theorem entry_aggregations : (c.entry t).aggregations = c.records.filterMap (·.2.inPlace?) := by
  rw [entry, Entry.recordAll_aggregations, Entry.filterAll_frame, Entry.selectAll_frame]
  rfl

theorem entry_remaining (name : Alias) :
    (c.entry t).remaining.contains name =
      (t.plainAliases.contains name && c.selects.all fun p => p.2.used p.1 != name) := by
  rw [entry, Entry.recordAll_frame, Entry.filterAll_frame]
  show (Entry.selectAll _ _).remaining.contains name = _
  rw [Entry.selectAll_remaining, Entry.start_remaining]

theorem itemsOf_joinSelects (table : TableName) :
    (c.entry t).joinSelects.itemsOf table =
      c.selects.filterMap fun p => (p.2.joinedSelect? p.1).bind (under table) := by
  rw [entry, Entry.recordAll_frame, Entry.filterAll_frame]
  exact Entry.selectAll_itemsOf ..

theorem itemsOf_joinAggregations (table : TableName) :
    (c.entry t).joinAggregations.itemsOf table =
      c.records.filterMap fun p => p.2.joined?.bind (under table) := by
  rw [entry, Entry.recordAll_itemsOf, Entry.filterAll_frame, Entry.selectAll_frame]
  rfl

theorem itemsOf_joinFilters (table : TableName) :
    (c.entry t).joinFilters.itemsOf table =
      c.filters.filterMap fun p => (p.2.joinedFilter? p.1).bind (under table) := by
  rw [entry, Entry.recordAll_frame]
  show (Entry.filterAll _ _).joinFilters.itemsOf table = _
  rw [Entry.filterAll_itemsOf, Entry.selectAll_frame]
  rfl

theorem entry_conditionsOn (column : String) :
    (c.entry t).conditionsOn column =
      c.filters.filterMap fun p => (p.2.ownFilter? p.1).bind (under column) := by
  rw [entry, Entry.recordAll_frame]
  show (Entry.filterAll _ _).conditionsOn column = _
  rw [Entry.filterAll_conditionsOn, Entry.selectAll_frame]
  rfl

theorem entry_ownFilters_contains (column : String) :
    (c.entry t).ownFilters.contains column =
      c.filters.any fun p => ((p.2.ownFilter? p.1).bind (under column)).isSome := by
  rw [entry, Entry.recordAll_frame]
  show (Entry.filterAll _ _).ownFilters.contains column = _
  rw [Entry.filterAll_contains, Entry.selectAll_frame]
  exact Bool.false_or _

end Course

end StarPlan
