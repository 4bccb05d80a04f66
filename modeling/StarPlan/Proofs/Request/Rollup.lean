import StarPlan.Proofs.Plan.Alone

/-!
# Requests over a rollup

A rollup stores, for each group of rows of a base table, the values by which they are grouped
and the results of calculations over them. A request that selects and filters by these values
alone and asks for the stored calculations has the same answer over the rollup as over the base
table: the stored results are aggregated once more (`Request.answer_rollup`), or handed out as
they are when the groups are the ones asked for (`Request.answer_of_ready`).
-/

namespace StarPlan

open Sql

variable {V : Type}

namespace FactTable

/-- The values of a row by which a rollup groups. -/
def rollupKey (t : FactTable) (row : Record V) : List (Alias × Option V) :=
  t.plainAliases.map fun name => (name, row name)

theorem lookup_rollupKey {t : FactTable} {name : Alias} (plain : name ∈ t.plainAliases)
    (row : Record V) : ((t.rollupKey row).lookup name).join = row name := by
  rw [rollupKey, Keyed.lookup_map_of_mem plain]
  rfl

variable [Domain V]

/-- What a rollup stores for a group of rows. -/
def rolledUp (t : FactTable) (group : List (Alias × Option V) × Multiset (Record V)) : Record V :=
  fun name => (t.field? name).bind fun f =>
    match f.calculation with
    | none => (group.1.lookup name).join
    | some c => c.result (group.2.map fun row => row name)

end FactTable

variable [Domain V]

/-- The rows of a table are the rows of another one, rolled up: they agree under each alias. -/
def Database.IsRollup (db : Database V) (b t : FactTable) : Prop :=
  (db t.name : Multiset (Record V)).map (fun row => t.fields.map fun f => t.byAlias row f.name) =
    (groupsBy t.rollupKey ((db b.name : Multiset (Record V)).map b.byAlias)).map
      fun group => t.fields.map fun f => t.rolledUp group f.name

instance (db : Database V) (b t : FactTable) : Decidable (db.IsRollup b t) :=
  inferInstanceAs (Decidable (_ = _))

theorem Database.IsRollup.rows_eq {db : Database V} {b t : FactTable}
    (rollup : db.IsRollup b t) :
    (db t.name : Multiset (Record V)).map t.byAlias =
      (groupsBy t.rollupKey ((db b.name : Multiset (Record V)).map b.byAlias)).map t.rolledUp := by
  -- A row has no cells but those of its columns, so it can be told from these.
  let restore : List (Option V) → Record V := fun cells name =>
    (((t.fields.map (·.name)).zip cells).lookup name).join
  have restored : ∀ row : Record V, (∀ name, t.field? name = none → row name = none) →
      restore (t.fields.map fun f => row f.name) = row := by
    intro row none
    funext name
    have cells : (t.fields.map (·.name)).zip (t.fields.map fun f => row f.name) =
        (t.fields.map (·.name)).map fun name => (name, row name) := by
      rw [List.zip_map', List.map_map]
      rfl
    show (((t.fields.map (·.name)).zip (t.fields.map fun f => row f.name)).lookup name).join = _
    rw [cells]
    by_cases listed : name ∈ t.fields.map (·.name)
    · rw [Keyed.lookup_map_of_mem listed]
      rfl
    · have absent : ((t.fields.map (·.name)).map fun name => (name, row name)).lookup name =
          Option.none := by
        apply List.lookup_eq_none_iff.2
        intro p member
        obtain ⟨other, known, rfl⟩ := List.mem_map.1 member
        exact bne_iff_ne.2 fun same : name = other => listed (same ▸ known)
      rw [absent, none name (FactTable.field?_eq_none_iff.2 listed)]
      rfl
  have same := congrArg (Multiset.map restore) rollup
  rw [Multiset.map_map, Multiset.map_map] at same
  have byAlias : ∀ row, restore (t.fields.map fun f => t.byAlias row f.name) = t.byAlias row :=
    fun row => restored _ fun name absent => by rw [FactTable.byAlias, absent]; rfl
  have rolledUp : ∀ group, restore (t.fields.map fun f => t.rolledUp group f.name) =
      t.rolledUp group :=
    fun group => restored _ fun name absent => by rw [FactTable.rolledUp, absent]; rfl
  simpa only [Function.comp_def, byAlias, rolledUp] using same

/-- A request is about what a rollup stores: it selects and filters by what the rollup groups
by, and asks for calculations that the rollup stores. -/
structure Request.AsksRollup (r : Request) (t : FactTable) : Prop where
  aggregates : r.aggregate ≠ []
  select : ∀ name ∈ r.select, name ∈ t.plainAliases
  filter : ∀ item ∈ r.filter, item.field ∈ t.plainAliases
  aggregate : ∀ item ∈ r.aggregate,
    ∃ f ∈ t.fields, f.name = item.field ∧ f.calculation = some item.calculation

namespace FactTable

variable {t : FactTable} {name : Alias}

theorem rolledUp_of_plain (built : t.Built) (plain : name ∈ t.plainAliases)
    (group : List (Alias × Option V) × Multiset (Record V)) :
    t.rolledUp group name = (group.1.lookup name).join := by
  obtain ⟨f, member, named, none⟩ := mem_plainAliases_iff.1 plain
  rw [rolledUp, built.field?_eq_some_iff.2 ⟨member, named⟩, Option.bind_some, none]

theorem rolledUp_of_stored (built : t.Built) {f : FactField} {c : Calculation}
    (member : f ∈ t.fields) (named : f.name = name) (stored : f.calculation = some c)
    (group : List (Alias × Option V) × Multiset (Record V)) :
    t.rolledUp group name = c.result (group.2.map fun row => row name) := by
  rw [rolledUp, built.field?_eq_some_iff.2 ⟨member, named⟩, Option.bind_some, stored]

/-- Aggregating what is stored for groups is aggregating the rows of the groups. -/
theorem result_rolledUp (built : t.Built) {f : FactField} {c : Calculation}
    (member : f ∈ t.fields) (named : f.name = name) (stored : f.calculation = some c)
    (composes : c = .sum ∨ c = .min ∨ c = .max)
    (groups : Multiset (List (Alias × Option V) × Multiset (Record V))) :
    c.result ((groups.map t.rolledUp).map fun row => row name) =
      c.result ((groups.bind Prod.snd).map fun row => row name) := by
  rw [Multiset.map_map, Multiset.map_bind, Calculation.result_bind composes]
  refine congrArg c.result (Multiset.map_congr rfl fun group _ => ?_)
  exact rolledUp_of_stored built member named stored group

end FactTable

namespace Request

variable {r : Request} {t : FactTable}

/-- A row that is rolled up passes the filters if the rows of its group do. -/
theorem filter_rolledUp (built : t.Built) (asks : r.AsksRollup t) (literal : Literals V)
    (rows : Multiset (Record V)) :
    ((groupsBy t.rollupKey rows).map t.rolledUp).filter (fun row => r.keeps literal row) =
      (groupsBy t.rollupKey (rows.filter fun row => r.keeps literal row)).map t.rolledUp := by
  let passes : List (Alias × Option V) → Bool := fun key =>
    r.filter.all fun item => literal item.op item.condition (key.lookup item.field).join
  have keeps : ∀ (row : Record V) (key : List (Alias × Option V)),
      (∀ name ∈ t.plainAliases, row name = (key.lookup name).join) →
        (r.keeps literal row = true ↔ passes key = true) := by
    intro row key same
    rw [Request.keeps, List.all_eq_true, List.all_eq_true]
    refine forall_congr' fun item => imp_congr_right fun listed => ?_
    rw [same item.field (asks.filter item listed)]
  have kept : (rows.filter fun row => r.keeps literal row) =
      rows.filter fun row => passes (t.rollupKey row) :=
    Multiset.filter_congr fun row _ => keeps row _ fun name plain =>
      (FactTable.lookup_rollupKey plain row).symm
  rw [kept, groupsBy_filter t.rollupKey (fun key => passes key = true), Multiset.filter_map]
  refine congrArg _ (Multiset.filter_congr fun group _ => ?_)
  exact keeps _ _ fun name plain => FactTable.rolledUp_of_plain built plain group

/-- The answer to a request with aggregates. -/
theorem answer_of_aggregates (some : r.aggregate ≠ []) (literal : Literals V)
    (rows : Multiset (Record V)) :
    r.answer literal rows =
      (grouped r.select (fun name row => row name) (rows.filter fun row => r.keeps literal row)).map
        fun (key, group) => key.map (fun (name, cell) => (Option.some name, cell)) ++
          r.aggregate.map fun item =>
            (Option.some (item.field.withCalculation item.calculation),
              item.calculation.result (group.map fun row => row item.field)) :=
  if_neg fun empty => some (List.isEmpty_iff.1 empty)

/-- Stored results may be aggregated once more. -/
theorem answer_rollup (built : t.Built) (asks : r.AsksRollup t)
    (composes : ∀ item ∈ r.aggregate,
      item.calculation = .sum ∨ item.calculation = .min ∨ item.calculation = .max)
    (literal : Literals V) (rows : Multiset (Record V)) :
    r.answer literal ((groupsBy t.rollupKey rows).map t.rolledUp) = r.answer literal rows := by
  rw [answer_of_aggregates asks.aggregates, answer_of_aggregates asks.aggregates,
    filter_rolledUp built asks]
  generalize rows.filter (fun row => r.keeps literal row) = kept
  have results : ∀ groups : Multiset (List (Alias × Option V) × Multiset (Record V)),
      (r.aggregate.map fun item =>
        (some (item.field.withCalculation item.calculation),
          item.calculation.result ((groups.map t.rolledUp).map fun row => row item.field))) =
        r.aggregate.map fun item =>
          (some (item.field.withCalculation item.calculation),
            item.calculation.result ((groups.bind Prod.snd).map fun row => row item.field)) := by
    intro groups
    refine List.map_congr_left fun item listed => congrArg (Prod.mk _) ?_
    obtain ⟨f, member, named, stored⟩ := asks.aggregate item listed
    exact FactTable.result_rolledUp built member named stored (composes item listed) groups
  by_cases single : r.select = []
  · rw [single, grouped_nil, grouped_nil, Multiset.map_singleton, Multiset.map_singleton]
    simp only [results, bind_groupsBy]
  · -- The selected cells are read off the key by which the rollup groups.
    let coarse : List (Alias × Option V) → List (Alias × Option V) := fun key =>
      r.select.map fun name => (name, (key.lookup name).join)
    have ofRow : (fun row : Record V => r.select.map fun name => (name, row name)) =
        fun row => coarse (t.rollupKey row) := by
      funext row
      refine List.map_congr_left fun name listed => congrArg (Prod.mk name) ?_
      exact (FactTable.lookup_rollupKey (asks.select name listed) row).symm
    have ofGroup : (fun group => r.select.map fun name => (name, t.rolledUp group name)) =
        fun group : List (Alias × Option V) × Multiset (Record V) => coarse group.1 := by
      funext group
      refine List.map_congr_left fun name listed => congrArg (Prod.mk name) ?_
      exact FactTable.rolledUp_of_plain built (asks.select name listed) group
    rw [grouped_of_ne_nil single, grouped_of_ne_nil single, groupsBy_map, ofGroup, ofRow,
      groupsBy_groupsBy t.rollupKey coarse, Multiset.map_map, Multiset.map_map]
    apply Multiset.map_congr rfl
    intro p _
    simp only [Function.comp_apply, results]

/-- Stored results are the ones asked for, if the groups are. -/
theorem answer_of_ready (built : t.Built) (asks : r.AsksRollup t) (grain : t.AtGrain r.select)
    (some : t.plainAliases ≠ []) (literal : Literals V) (rows : Multiset (Record V)) :
    (((groupsBy t.rollupKey rows).map t.rolledUp).filter fun row => r.keeps literal row).map
        (fun row => r.select.map (fun name => (Option.some name, row name)) ++
          r.aggregate.map fun item =>
            (Option.some (item.field.withCalculation item.calculation), row item.field)) =
      r.answer literal rows := by
  have many : r.select ≠ [] := by
    intro none
    obtain ⟨name, plain⟩ := List.exists_mem_of_ne_nil _ some
    have selected := grain.1 name plain
    rw [none] at selected
    cases selected
  rw [answer_of_aggregates asks.aggregates, filter_rolledUp built asks, grouped_of_ne_nil many,
    Multiset.map_map]
  generalize rows.filter (fun row => r.keeps literal row) = kept
  refine map_groupsBy_congr ?_ ?_
  · intro a _ b _
    simp only [FactTable.rollupKey, List.map_inj_left, Prod.mk.injEq, true_and]
    exact ⟨fun same name selected => same name (grain.2 name selected),
      fun same name plain => same name (grain.1 name plain)⟩
  · intro a _ group _ _
    show _ = (r.select.map fun name => (name, a name)).map _ ++ _
    rw [Function.comp_apply, List.map_map]
    refine congrArg₂ (· ++ ·) ?_ ?_
    · refine List.map_congr_left fun name selected => congrArg (Prod.mk (Option.some name)) ?_
      rw [FactTable.rolledUp_of_plain built (asks.select name selected),
        FactTable.lookup_rollupKey (asks.select name selected)]
    · refine List.map_congr_left fun item listed => congrArg (Prod.mk _) ?_
      obtain ⟨f, member, named, stored⟩ := asks.aggregate item listed
      exact FactTable.rolledUp_of_stored built member named stored _

end Request

end StarPlan
