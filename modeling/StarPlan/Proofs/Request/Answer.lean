import StarPlan.Proofs.Keyed
import StarPlan.Proofs.Sql.Semantics
import StarPlan.Request.Basic

/-!
# What a request asks for

A request is about rows that have a cell under every alias. Its answer keeps the rows that pass
all filters; without aggregates it has one row for each of them, and with aggregates one row for
each group of them by the selected aliases, or one row in all if nothing is selected.

`Query.Realizes` says what makes a query ask the same, and `Query.Realizes.answer_eq` that its
answer is the same then.
-/

namespace StarPlan

open Sql

variable {V : Type}

namespace Request

/-- Whether a row passes all filters. -/
def keeps (literal : Literals V) (r : Request) (row : Record V) : Bool :=
  r.filter.all fun item => literal item.op item.condition (row item.field)

/-- The answer to a request over a bag of rows. -/
def answer [Domain V] (literal : Literals V) (r : Request) (rows : Multiset (Record V)) :
    Multiset (List (Option String × Option V)) :=
  let kept := rows.filter fun row => r.keeps literal row
  if r.aggregate.isEmpty then
    kept.map fun row => r.select.map fun name => (some name, row name)
  else
    (grouped r.select (fun name row => row name) kept).map fun (key, group) =>
      key.map (fun (name, cell) => (some name, cell)) ++
        r.aggregate.map fun item =>
          (some (item.field.withCalculation item.calculation),
            item.calculation.result (group.map fun row => row item.field))

end Request

namespace Sql

/-- The output column of a selected field. -/
def SelectItem.ofField (p : Alias × Expr) : SelectItem := ⟨p.2, some p.1⟩

/-- The output column of an aggregate item. -/
def SelectItem.ofAggregate (p : AggregateItem × Expr) : SelectItem :=
  ⟨.aggregate p.1.calculation p.2, some (p.1.field.withCalculation p.1.calculation)⟩

/-- The output columns in the order of the request. -/
def requestedItems (selects : List (Alias × Expr)) (aggregates : List (AggregateItem × Expr)) :
    List SelectItem :=
  selects.map .ofField ++ aggregates.map .ofAggregate

/-- The expressions that are not aggregates. -/
def Query.plainExprs (q : Query) : List Expr :=
  (q.select.filter fun item => !item.expr.isAggregate).map (·.expr)

/-- A query that groups by exactly the columns that are not aggregates, if it has aggregates. -/
def Query.GroupsRest (q : Query) : Prop :=
  q.groupBy = if q.select.any (·.expr.isAggregate) then q.plainExprs else []

namespace Query

variable [Domain V] {β : Type}

/-- Without aggregates there is one output row for each scope. -/
theorem GroupsRest.answer_of_plain {q : Query} (groups : q.GroupsRest)
    (plain : q.select.any (·.expr.isAggregate) = false) (literal : Literals V)
    (db : Database V) :
    q.answer literal db = (q.scopes literal db).map fun scope =>
      q.select.map fun item => (item.outputName, item.expr.value scope) := by
  have ungrouped : q.isGrouped = false := by
    rw [GroupsRest, plain] at groups
    rw [isGrouped, groups, plain]
    rfl
  rw [answer, ungrouped]
  rfl

/-- A query has the columns of a request, in an order that `view` does not see, and its scopes
are rows of its table of which it reads the same cells as the request. -/
structure Realizes (literal : Literals V) (db : Database V) (q : Query) (r : Request)
    (selects : List (Alias × Expr)) (aggregates : List (AggregateItem × Expr))
    (scope : Record V → Scope V) (row : Record V → Record V)
    (view : List (Option String × Option V) → β) : Prop where
  groups : q.GroupsRest
  select : selects.map (·.1) = r.select
  aggregate : aggregates.map (·.1) = r.aggregate
  plain : ∀ p ∈ selects, p.2.isAggregate = false
  items : q.select.Perm (requestedItems selects aggregates)
  order : ∀ cell : SelectItem → Option V,
    view (q.select.map fun item => (item.outputName, cell item)) =
      view ((requestedItems selects aggregates).map fun item => (item.outputName, cell item))
  scopes : q.scopes literal db =
    ((db q.source : Multiset (Record V)).filter fun a => r.keeps literal (row a)).map scope
  cell : ∀ p ∈ selects, ∀ a ∈ db q.source, p.2.value (scope a) = row a p.1
  result : ∀ p ∈ aggregates, ∀ group ≤ (db q.source : Multiset (Record V)),
    p.1.calculation.result (group.map fun a => p.2.value (scope a)) =
      p.1.calculation.result (group.map fun a => row a p.1.field)

namespace Realizes

variable {literal : Literals V} {db : Database V} {q : Query} {r : Request}
variable {selects : List (Alias × Expr)} {aggregates : List (AggregateItem × Expr)}
variable {scope : Record V → Scope V} {row : Record V → Record V}
variable {view : List (Option String × Option V) → β}

theorem mem_plainExprs (h : q.Realizes literal db r selects aggregates scope row view)
    {expr : Expr} : expr ∈ q.plainExprs ↔ ∃ p ∈ selects, p.2 = expr := by
  simp only [plainExprs, List.mem_map, List.mem_filter, h.items.mem_iff, requestedItems,
    List.mem_append]
  constructor
  · rintro ⟨item, ⟨⟨p, member, rfl⟩ | ⟨p, member, rfl⟩, plain⟩, rfl⟩
    · exact ⟨p, member, rfl⟩
    · cases plain
  · rintro ⟨p, member, rfl⟩
    refine ⟨.ofField p, ⟨.inl ⟨p, member, rfl⟩, ?_⟩, rfl⟩
    exact Bool.not_eq_true' _ ▸ h.plain p member

theorem plainExprs_eq_nil_iff (h : q.Realizes literal db r selects aggregates scope row view) :
    q.plainExprs = [] ↔ r.select = [] := by
  rw [← h.select, List.map_eq_nil_iff]
  simp only [List.eq_nil_iff_forall_not_mem, h.mem_plainExprs]
  constructor
  · intro none p member
    exact none p.2 ⟨p, member, rfl⟩
  · rintro none expr ⟨p, member, -⟩
    exact none p member

/-- The selected cells tell apart the same rows in the query and in the request. -/
theorem plainExprs_apart (h : q.Realizes literal db r selects aggregates scope row view)
    {a b : Record V} (ha : a ∈ db q.source) (hb : b ∈ db q.source) :
    (∀ expr ∈ q.plainExprs, expr.value (scope a) = expr.value (scope b)) ↔
      ∀ name ∈ r.select, row a name = row b name := by
  rw [← h.select]
  constructor
  · intro same name listed
    obtain ⟨p, member, rfl⟩ := List.mem_map.1 listed
    rw [← h.cell p member a ha, ← h.cell p member b hb]
    exact same p.2 (h.mem_plainExprs.2 ⟨p, member, rfl⟩)
  · intro same expr listed
    obtain ⟨p, member, rfl⟩ := h.mem_plainExprs.1 listed
    rw [h.cell p member a ha, h.cell p member b hb]
    exact same p.1 (List.mem_map_of_mem member)

theorem any_isAggregate (h : q.Realizes literal db r selects aggregates scope row view) :
    q.select.any (·.expr.isAggregate) = !r.aggregate.isEmpty := by
  rw [h.items.any_eq, requestedItems, List.any_append, List.any_map, List.any_map, ← h.aggregate]
  have plain : selects.any ((fun item => item.expr.isAggregate) ∘ SelectItem.ofField) = false :=
    List.any_eq_false.2 fun p member => Bool.not_eq_true _ ▸ h.plain p member
  rw [plain, Bool.false_or]
  cases aggregates <;> rfl

/-- The output of a row that is not grouped. -/
theorem view_row (h : q.Realizes literal db r selects aggregates scope row view)
    (none : r.aggregate = []) {a : Record V} (member : a ∈ db q.source) :
    view (q.select.map fun item => (item.outputName, item.expr.value (scope a))) =
      view (r.select.map fun name => (some name, row a name)) := by
  have noAggregates : aggregates = [] := List.map_eq_nil_iff.1 (h.aggregate.trans none)
  rw [h.order fun item => item.expr.value (scope a), requestedItems, noAggregates, ← h.select,
    List.map_nil, List.append_nil, List.map_map, List.map_map]
  refine congrArg view (List.map_congr_left fun p listed => ?_)
  exact congrArg (Prod.mk (some p.1)) (h.cell p listed a member)

/-- The output of a group, if its key holds the selected cells. -/
theorem view_group (h : q.Realizes literal db r selects aggregates scope row view)
    {key : List (Expr × Option V)} {cell : Alias → Option V}
    (found : ∀ p ∈ selects, key.lookup p.2 = some (cell p.1)) {group : Multiset (Record V)}
    (within : group ≤ (db q.source : Multiset (Record V))) :
    view (q.select.map fun item =>
        (item.outputName, item.expr.valueIn key (group.map scope))) =
      view (r.select.map (fun name => (some name, cell name)) ++ r.aggregate.map fun item =>
        (some (item.field.withCalculation item.calculation),
          item.calculation.result ((group.map row).map fun a => a item.field))) := by
  rw [h.order fun item => item.expr.valueIn key (group.map scope), requestedItems, ← h.select,
    ← h.aggregate, List.map_append, List.map_map, List.map_map, List.map_map, List.map_map]
  refine congrArg view (congrArg₂ (· ++ ·) ?_ ?_)
  · refine List.map_congr_left fun p member => congrArg (Prod.mk (some p.1)) ?_
    rw [SelectItem.ofField, Expr.valueIn_of_plain (h.plain p member), found p member]
    rfl
  · refine List.map_congr_left fun p member => congrArg (Prod.mk _) ?_
    show p.1.calculation.result ((group.map scope).map p.2.value) = _
    rw [Multiset.map_map, Multiset.map_map]
    exact h.result p member group within

/-- A query that asks the same as a request is answered alike. -/
theorem answer_eq (h : q.Realizes literal db r selects aggregates scope row view) :
    (q.answer literal db).map view =
      (r.answer literal ((db q.source : Multiset (Record V)).map row)).map view := by
  have any := h.any_isAggregate
  have groupBy := h.groups
  have kept : ((db q.source : Multiset (Record V)).map row).filter (fun a => r.keeps literal a) =
      ((db q.source : Multiset (Record V)).filter fun a => r.keeps literal (row a)).map row :=
    Multiset.filter_map ..
  have within : ((db q.source : Multiset (Record V)).filter fun a => r.keeps literal (row a)) ≤
      (db q.source : Multiset (Record V)) := Multiset.filter_le ..
  rw [Query.GroupsRest, any] at groupBy
  rw [Query.answer, Query.isGrouped, any, Request.answer, h.scopes, kept]
  generalize ((db q.source : Multiset (Record V)).filter fun a => r.keeps literal (row a)) =
    things at within
  cases none : r.aggregate.isEmpty with
  | true =>
      have flat : q.groupBy = [] := by rw [groupBy, none]; rfl
      simp only [flat, List.isEmpty_nil, Bool.not_true, Bool.or_false, Bool.false_eq_true,
        if_false, if_true, Multiset.map_map]
      exact Multiset.map_congr rfl fun a member =>
        h.view_row (List.isEmpty_iff.1 none) (Multiset.mem_of_le within member)
  | false =>
      have byRest : q.groupBy = q.plainExprs := by rw [groupBy, none]; rfl
      simp only [byRest, Bool.not_false, Bool.or_true, if_true, Bool.false_eq_true, if_false,
        Multiset.map_map]
      refine map_grouped_congr ?_ ?_ ?_ ?_
      · exact h.plainExprs_eq_nil_iff
      · intro a ha b hb
        exact h.plainExprs_apart (Multiset.mem_of_le within ha) (Multiset.mem_of_le within hb)
      · intro empty
        have noSelects := h.plainExprs_eq_nil_iff.1 empty
        have found : ∀ cell : Alias → Option V, ∀ p ∈ selects,
            List.lookup p.2 ([] : List (Expr × Option V)) = some (cell p.1) := by
          intro cell p member
          rw [List.map_eq_nil_iff.1 (h.select.trans noSelects)] at member
          cases member
        have output := fun cell => h.view_group (found cell) within
        rw [noSelects] at output
        exact output fun _ => Option.none
      · intro a ha group smaller
        have found : ∀ p ∈ selects,
            (q.plainExprs.map fun expr => (expr, expr.value (scope a))).lookup p.2 =
              some (row a p.1) := by
          intro p member
          rw [Keyed.lookup_map_of_mem (h.mem_plainExprs.2 ⟨p, member, rfl⟩),
            h.cell p member a (Multiset.mem_of_le within ha)]
        apply (h.view_group found (smaller.trans within)).trans
        rw [Function.comp_apply, List.map_map]
        rfl

end Realizes

end Query

end Sql

end StarPlan
