import StarPlan.Proofs.Plan.Contents
import StarPlan.Proofs.Plan.Scopes

/-!
# The grouping columns of a planned query

An entry keeps what it hands out and what it aggregates in four places, and its query goes through
them one after another. `Entry.groupBy_toQuery` says what comes of it, for every entry that can be
recorded and so for every entry that planning leaves: as soon as one output column is an aggregate,
the query groups by all the others, in their order, and otherwise by nothing. A stored column that
is handed out as it is counts among the others.

The text of a query has its GROUP BY clause at the end, behind what would be the text of the query
without grouping (`Query.hasGroupClause_iff`).
-/

namespace StarPlan

open Sql

namespace Sql.Query

variable {d : Dialect} {q : Query}

/-- The text of a query goes on with a GROUP BY clause where it would end without grouping. -/
def HasGroupClause (d : Dialect) (q : Query) : Prop :=
  ∃ items, q.render d = { q with groupBy := [] }.render d ++ "\nGROUP BY\n\t " ++ items

theorem render_append_groups (d : Dialect) (q : Query) :
    q.render d = { q with groupBy := [] }.render d ++ renderGroups d q.groupBy := by
  simp only [render, renderGroups, String.append_empty]

theorem hasGroupClause_iff : q.HasGroupClause d ↔ q.groupBy ≠ [] := by
  rw [HasGroupClause, render_append_groups]
  cases q.groupBy with
  | nil =>
      refine iff_of_false ?_ (· rfl)
      rintro ⟨items, same⟩
      have shorter := congrArg String.length same
      simp only [renderGroups, String.length_append] at shorter
      have clause : "\nGROUP BY\n\t ".length = 12 := by decide
      have none : "".length = 0 := rfl
      omega
  | cons expr rest =>
      refine iff_of_true ⟨"\n\t,".intercalate ((expr :: rest).map (Expr.render d)), ?_⟩
        (List.cons_ne_nil expr rest)
      have clause : renderGroups d (expr :: rest) = "\nGROUP BY\n\t " ++
          "\n\t,".intercalate ((expr :: rest).map (Expr.render d)) := by
        show "\nGROUP BY" ++ renderItems _ = _
        rw [renderItems, ← String.append_assoc]
        rfl
      rw [clause, String.append_assoc]

end Sql.Query

namespace Entry

variable {α : Type} {e : Entry}

theorem groupItems_eq_nil_iff {groups : Keyed (JoinGroup α)} :
    groupItems groups = [] ↔ ∀ table, groups.itemsOf table = [] := by
  rw [groupItems, List.flatMap_eq_nil_iff]
  constructor
  · intro none table
    rw [Keyed.itemsOf]
    cases found : groups.get? table with
    | none => rfl
    | some group =>
        exact List.map_eq_nil_iff.1 (none (table, group) (Keyed.get?_eq_some_iff.1 found))
  · intro none entry listed
    have empty := none entry.1
    rw [Keyed.itemsOf, Keyed.get?_eq_some_iff.2 listed] at empty
    exact List.map_eq_nil_iff.2 empty

theorem plainExprs_eq_columns (e : Entry) (table : TableName) :
    (e.toQuery table).plainExprs =
      e.selects.map (fun select => .ofTable table.shortName select.column) ++
        (groupItems e.joinSelects).map fun (dimension, field) =>
          .ofTable dimension field.column := by
  rw [plainExprs_toQuery, List.map_append, plainItems, joinedItems, List.map_map, List.map_map]
  rfl

theorem plainExprs_ne_nil_iff (e : Entry) (table : TableName) :
    (e.toQuery table).plainExprs ≠ [] ↔
      e.selects ≠ [] ∨ ∃ dimension, e.joinSelects.itemsOf dimension ≠ [] := by
  rw [plainExprs_eq_columns, ne_eq, List.append_eq_nil_iff, List.map_eq_nil_iff,
    List.map_eq_nil_iff, groupItems_eq_nil_iff, not_and_or, not_forall]

/-- A query with an aggregate groups by exactly the expressions of its other columns, those of the
fact table before those of the dimensions, and a query without one does not group. So its text has
a GROUP BY clause exactly if something is aggregated and something else is selected. -/
theorem groupBy_toQuery (e : Entry) (table : TableName) :
    let q := e.toQuery table
    (e.hasAggregation = true ↔ ∃ item ∈ q.select, item.expr.isAggregate = true) ∧
      q.groupBy = (if e.hasAggregation then
        (q.select.filter fun item => !item.expr.isAggregate).map (·.expr) else []) ∧
      (q.select.filter fun item => !item.expr.isAggregate).map (·.expr) =
        e.selects.map (fun select => .ofTable table.shortName select.column) ++
          (groupItems e.joinSelects).map (fun (dimension, field) =>
            .ofTable dimension field.column) ∧
      ∀ d, q.HasGroupClause d ↔ e.hasAggregation = true ∧
        (e.selects ≠ [] ∨ ∃ dimension, e.joinSelects.itemsOf dimension ≠ []) := by
  intro q
  have aggregates : e.hasAggregation = q.select.any (·.expr.isAggregate) :=
    (e.any_isAggregate_toQuery table).symm
  have groups : q.groupBy = if e.hasAggregation then q.plainExprs else [] := by
    rw [aggregates]
    exact e.groupsRest_toQuery table
  refine ⟨by rw [aggregates, List.any_eq_true], groups, e.plainExprs_eq_columns table, fun d => ?_⟩
  rw [Query.hasGroupClause_iff, groups, ← e.plainExprs_ne_nil_iff table]
  cases e.hasAggregation <;> simp [q]

end Entry

end StarPlan
