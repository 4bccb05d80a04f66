import StarPlan.Proofs.Plan.Course

/-!
# The joins of an entry

An entry keeps what it needs from a dimension in up to three groups, one for selected columns,
one for aggregates and one for conditions, and the first keys of a group stay. Here the joins
of a course are listed as they are decided (`Course.joins`), and `Course.get?_joinTables` says
that the entry joins a dimension exactly if it is in that list, by the first keys it has there.
-/

namespace StarPlan

/-- The dimension that a source joins, with the keys. -/
def FieldSource.join? : FieldSource → Option (TableName × JoinKeys)
  | .native _ => none
  | .joined d keys => some (d.table.name, keys)

/-- The dimension that the answer to an aggregate item joins, with the keys. -/
def AggregateRecord.join? : AggregateRecord → Option (TableName × JoinKeys)
  | .ready _ | .inPlace _ => none
  | .joined table keys _ => some (table, keys)

/-- The joins that a course decides on, for selected fields, aggregates and filters. -/
def Course.joins (c : Course) : List (TableName × JoinKeys) :=
  c.selects.filterMap (·.2.join?) ++ c.records.filterMap (·.2.join?) ++
    c.filters.filterMap (·.2.join?)

theorem Course.mem_joins_iff {c : Course} {p : TableName × JoinKeys} :
    p ∈ c.joins ↔ (∃ q ∈ c.selects, q.2.join? = some p) ∨
      (∃ q ∈ c.records, q.2.join? = some p) ∨ ∃ q ∈ c.filters, q.2.join? = some p := by
  rw [joins, List.mem_append, List.mem_append, List.mem_filterMap, List.mem_filterMap,
    List.mem_filterMap, or_assoc]

namespace Keyed

variable {α : Type}

/-- The keys of a dimension's group, if there is one. -/
def keysOf (groups : Keyed (JoinGroup α)) (table : TableName) : Option JoinKeys :=
  (groups.get? table).map (·.keys)

theorem keysOf_addToGroup (groups : Keyed (JoinGroup α)) (table other : TableName)
    (keys : JoinKeys) (item : α) :
    (groups.addToGroup table keys item).keysOf other =
      (groups.keysOf other).or ([(table, keys)].lookup other) := by
  rw [keysOf, addToGroup, get?_alter]
  by_cases same : other = table
  · subst same
    cases found : groups.get? other <;> simp [keysOf, found]
  · have differs : (other == table) = false := beq_eq_false_iff_ne.2 same
    simp [keysOf, same, List.lookup_cons, differs]

theorem keysOf_eq_none_iff {groups : Keyed (JoinGroup α)} {table : TableName} :
    groups.keysOf table = none ↔ groups.get? table = none := by
  rw [keysOf, Option.map_eq_none_iff]

/-- If every step joins as it decides, a run joins by the first decision for a dimension. -/
theorem keysOf_foldl {σ ι : Type} (groups : σ → Keyed (JoinGroup α)) (step : σ → ι → σ)
    (join? : ι → Option (TableName × JoinKeys)) (table : TableName)
    (one : ∀ e x, (groups (step e x)).keysOf table =
      ((groups e).keysOf table).or ((join? x).toList.lookup table)) (l : List ι) (e : σ) :
    (groups (l.foldl step e)).keysOf table =
      ((groups e).keysOf table).or ((l.filterMap join?).lookup table) := by
  induction l generalizing e with
  | nil => simp
  | cons x rest ih =>
      rw [List.foldl_cons, ih, one, Option.or_assoc, ← List.lookup_append]
      cases decided : join? x <;> simp [decided]

end Keyed

namespace Entry

theorem get?_joinTables (e : Entry) (table : TableName) :
    e.joinTables.get? table =
      ((e.joinSelects.keysOf table).or (e.joinAggregations.keysOf table)).or
        (e.joinFilters.keysOf table) := by
  rw [joinTables, Keyed.get?_foldl_insertNew, Keyed.get?_empty, Option.none_or,
    List.lookup_append, List.lookup_append]
  simp only [Keyed.lookup_entries]
  rfl

theorem selectAll_joinSelects (e : Entry) (l : List (Alias × FieldSource)) (table : TableName) :
    (e.selectAll l).joinSelects.keysOf table =
      (e.joinSelects.keysOf table).or ((l.filterMap (·.2.join?)).lookup table) := by
  refine Keyed.keysOf_foldl Entry.joinSelects _ _ table ?_ l e
  rintro e ⟨field, f | ⟨d, keys⟩⟩
  · exact (Option.or_none ..).symm
  · exact Keyed.keysOf_addToGroup ..

theorem filterAll_joinFilters (e : Entry) (l : List (FilterItem × FieldSource))
    (table : TableName) :
    (e.filterAll l).joinFilters.keysOf table =
      (e.joinFilters.keysOf table).or ((l.filterMap (·.2.join?)).lookup table) := by
  refine Keyed.keysOf_foldl Entry.joinFilters _ _ table ?_ l e
  rintro e ⟨item, f | ⟨d, keys⟩⟩
  · exact (Option.or_none ..).symm
  · exact Keyed.keysOf_addToGroup ..

theorem recordAll_joinAggregations (e : Entry) (l : List (AggregateItem × AggregateRecord))
    (table : TableName) :
    (e.recordAll l).joinAggregations.keysOf table =
      (e.joinAggregations.keysOf table).or ((l.filterMap (·.2.join?)).lookup table) := by
  refine Keyed.keysOf_foldl Entry.joinAggregations _ _ table ?_ l e
  rintro e ⟨item, s | a | ⟨joined, keys, a⟩⟩
  · exact (Option.or_none ..).symm
  · exact (Option.or_none ..).symm
  · exact Keyed.keysOf_addToGroup ..

end Entry

namespace Course

variable (c : Course) (t : FactTable) (table : TableName)

theorem keysOf_joinSelects :
    (c.entry t).joinSelects.keysOf table = (c.selects.filterMap (·.2.join?)).lookup table := by
  rw [entry, Entry.recordAll_frame]
  show (Entry.filterAll _ _).joinSelects.keysOf table = _
  rw [Entry.filterAll_frame]
  exact Entry.selectAll_joinSelects ..

theorem keysOf_joinFilters :
    (c.entry t).joinFilters.keysOf table = (c.filters.filterMap (·.2.join?)).lookup table := by
  rw [entry, Entry.recordAll_frame]
  show (Entry.filterAll _ _).joinFilters.keysOf table = _
  rw [Entry.filterAll_joinFilters, Entry.selectAll_frame]
  rfl

theorem keysOf_joinAggregations :
    (c.entry t).joinAggregations.keysOf table =
      (c.records.filterMap (·.2.join?)).lookup table := by
  rw [entry, Entry.recordAll_joinAggregations, Entry.filterAll_frame]
  show ((Entry.selectAll _ _).joinAggregations.keysOf table).or _ = _
  rw [Entry.selectAll_frame]
  rfl

/-- The entry of a course joins what the course decided to join, by the first keys. -/
theorem get?_joinTables : (c.entry t).joinTables.get? table = c.joins.lookup table := by
  rw [Entry.get?_joinTables, keysOf_joinSelects, keysOf_joinAggregations, keysOf_joinFilters,
    joins, List.lookup_append, List.lookup_append]

end Course

end StarPlan
