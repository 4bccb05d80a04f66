import Mathlib.Algebra.BigOperators.Group.Multiset.Defs
import Mathlib.Algebra.Order.Ring.Unbundled.Rat
import Mathlib.Data.Multiset.Filter
import Mathlib.Data.Multiset.Fold
import Mathlib.Order.Defs.LinearOrder
import Mathlib.Order.MinMax
import StarPlan.Name
import StarPlan.Proofs.Sql.Grouping
import StarPlan.Sql.Query

/-!
# What a query means

Queries are evaluated over bags of rows. A cell is a value or NULL, which is `none`: NULL equals
nothing, aggregates pass over it, and only the aggregates that count have a value when there is
nothing else. What an operator says about a cell and the text of a literal is left open.

`Query.answer` follows the clauses in the order in which they take effect: FROM and the joins
bring rows into scope, WHERE drops some, GROUP BY puts them into groups, and SELECT makes one
row of every group, or of every row where nothing is grouped. Without a GROUP BY clause an
aggregate makes one group of all rows, even if there are none.
-/

namespace StarPlan

/-- The values that cells hold can be added and compared. Counts are among them, and so is the
average of any bag of them. -/
class Domain (V : Type) extends AddCommSemigroup V, LinearOrder V where
  ofCount : Nat → V
  average : Multiset V → V

instance : Domain ℚ where
  ofCount n := n
  average values := values.sum / values.card

/-- The cells of a row by column, or by alias. -/
abbrev Record (V : Type) := String → Option V

/-- The rows of every table. -/
abbrev Database (V : Type) := TableName → List (Record V)

/-- What an operator with the text of a literal says about a cell. -/
abbrev Literals (V : Type) := Comparison → String → Option V → Bool

variable {V : Type}

namespace Calculation

/-- The values of a bag of cells under an operation; none if there are no values. -/
def combine (op : V → V → V) [Std.Commutative op] [Std.Associative op]
    (cells : Multiset (Option V)) : Option V :=
  cells.fold (Option.merge op) none

theorem combine_add (op : V → V → V) [Std.Commutative op] [Std.Associative op]
    (cells more : Multiset (Option V)) :
    combine op (cells + more) = (combine op cells).merge op (combine op more) :=
  Multiset.fold_add (Option.merge op) none none cells more

/-- To combine is to combine what parts combine to, and an empty part is a NULL. -/
theorem combine_bind {α : Type} (op : V → V → V) [Std.Commutative op] [Std.Associative op]
    (parts : Multiset α) (cells : α → Multiset (Option V)) :
    combine op (parts.bind cells) = combine op (parts.map fun part => combine op (cells part)) := by
  induction parts using Multiset.induction with
  | empty => rfl
  | cons part rest ih =>
      rw [Multiset.cons_bind, combine_add, ih, Multiset.map_cons]
      exact (Multiset.fold_cons_left (Option.merge op) none _ _).symm

/-- The values among cells none of which is NULL are the cells. -/
theorem map_some_present {cells : Multiset (Option V)} (present : ∀ cell ∈ cells, cell ≠ none) :
    (cells.filterMap id).map some = cells := by
  induction cells using Multiset.induction with
  | empty => rfl
  | cons cell rest ih =>
      have tail := ih fun other member => present other (Multiset.mem_cons_of_mem member)
      cases cell with
      | none => exact absurd rfl (present none (Multiset.mem_cons_self none rest))
      | some v =>
          rw [Multiset.filterMap_cons_some id (some v) rest rfl, Multiset.map_cons, tail]

variable [Domain V]

/-- A calculation over a bag of cells. -/
def result (c : Calculation) (cells : Multiset (Option V)) : Option V :=
  let present := cells.filterMap id
  match c with
  | sum => combine (· + ·) cells
  | min => combine Min.min cells
  | max => combine Max.max cells
  | count => some (Domain.ofCount present.card)
  | countDistinct => some (Domain.ofCount present.dedup.card)
  | avg => if present.card = 0 then none else some (Domain.average present)

/-- Sums, minima and maxima may be taken in two steps. -/
theorem result_bind {c : Calculation} (composes : c = sum ∨ c = min ∨ c = max) {α : Type}
    (parts : Multiset α) (cells : α → Multiset (Option V)) :
    c.result (parts.bind cells) = c.result (parts.map fun part => c.result (cells part)) := by
  rcases composes with rfl | rfl | rfl <;> exact combine_bind _ parts cells

/-- Counting cannot tell two columns apart that have no NULLs and agree on which rows agree. -/
theorem result_congr_of_isCount {c : Calculation} (counts : c.isCount = true) {α : Type}
    {rows : Multiset α} {cell cell' : α → Option V} (present : ∀ a ∈ rows, cell a ≠ none)
    (present' : ∀ a ∈ rows, cell' a ≠ none)
    (apart : ∀ a ∈ rows, ∀ b ∈ rows, cell a = cell b ↔ cell' a = cell' b) :
    c.result (rows.map cell) = c.result (rows.map cell') := by
  have values : ((rows.map cell).filterMap id).map some = rows.map cell :=
    map_some_present (by simpa using present)
  have values' : ((rows.map cell').filterMap id).map some = rows.map cell' :=
    map_some_present (by simpa using present')
  have size : ((rows.map cell).filterMap id).card = ((rows.map cell').filterMap id).card := by
    have rowsOf := congrArg Multiset.card values
    have rowsOf' := congrArg Multiset.card values'
    rw [Multiset.card_map, Multiset.card_map] at rowsOf rowsOf'
    exact rowsOf.trans rowsOf'.symm
  have different : ((rows.map cell).filterMap id).dedup.card =
      ((rows.map cell').filterMap id).dedup.card := by
    have same : ((rows.map cell).dedup.map fun _ => ()) = (rows.map cell').dedup.map fun _ => () :=
      Sql.map_dedup_congr apart fun _ _ => rfl
    rw [← values, ← values', Multiset.dedup_map_of_injective (Option.some_injective V),
      Multiset.dedup_map_of_injective (Option.some_injective V), Multiset.map_map,
      Multiset.map_map] at same
    simpa only [Multiset.card_map] using congrArg Multiset.card same
  cases c with
  | count => exact congrArg (fun n => some (Domain.ofCount n)) size
  | countDistinct => exact congrArg (fun n => some (Domain.ofCount n)) different
  | _ => cases counts

end Calculation

namespace Sql

/-- The rows in scope, by the name that qualifies their columns. -/
abbrev Scope (V : Type) := String → Record V

namespace Expr

/-- The cell that a column names. In the queries of plans nothing but qualified columns is
asked for a cell. -/
def value : Expr → Scope V → Option V
  | column (some table) name, scope => scope table name
  | _, _ => none

@[simp] theorem value_ofTable (table name : String) (scope : Scope V) :
    (ofTable table name).value scope = scope table name := rfl

variable [Domain V]

/-- Whether a condition holds: a column is compared with a literal, or equals another one. -/
def holds (literal : Literals V) (scope : Scope V) : Expr → Bool
  | binary op left (raw text) => literal op text (left.value scope)
  | binary .eq left right => (left.value scope).any fun v => right.value scope == some v
  | _ => false

theorem holds_columns (literal : Literals V) (scope : Scope V)
    (table column table' column' : String) :
    (binary .eq (ofTable table column) (ofTable table' column')).holds literal scope =
      (scope table column).any fun v => scope table' column' == some v := rfl

/-- The cell of a group: an aggregate over its rows, or else one of the values by which the
rows are in the group. -/
def valueIn (key : List (Expr × Option V)) (group : Multiset (Scope V)) : Expr → Option V
  | aggregate c operand => c.result (group.map operand.value)
  | expr => (key.lookup expr).join

theorem valueIn_of_plain {expr : Expr} (plain : expr.isAggregate = false)
    (key : List (Expr × Option V)) (group : Multiset (Scope V)) :
    expr.valueIn key group = (key.lookup expr).join := by
  cases expr with
  | aggregate c operand => cases plain
  | _ => rfl

end Expr

variable [Domain V]

/-- The scopes that a join makes of one: one for each row that meets its conditions. -/
def Join.extend (literal : Literals V) (db : Database V) (join : Join) (scope : Scope V) :
    Multiset (Scope V) :=
  ((db join.table).map fun row =>
    Function.update scope (TableName.shortName join.table) row).filter
      fun scope => join.on.all (·.holds literal scope)

namespace Query

variable (literal : Literals V) (db : Database V) (q : Query)

/-- The rows of FROM, each alone in scope. -/
def sourceScopes : Multiset (Scope V) :=
  (db q.source).map fun row =>
    Function.update (fun _ _ => none) (TableName.shortName q.source) row

/-- What FROM and the joins bring into scope. -/
def joinedScopes : Multiset (Scope V) :=
  q.joins.foldl (fun scopes join => scopes.bind (join.extend literal db)) (q.sourceScopes db)

/-- What WHERE leaves of it. -/
def scopes : Multiset (Scope V) :=
  (q.joinedScopes literal db).filter fun scope => q.filters.all (·.holds literal scope)

/-- Whether there are groups. -/
def isGrouped : Bool :=
  !q.groupBy.isEmpty || q.select.any (·.expr.isAggregate)

/-- The rows of the answer, each with its cells under the names of the output columns. -/
def answer : Multiset (List (Option String × Option V)) :=
  if q.isGrouped then
    (grouped q.groupBy Expr.value (q.scopes literal db)).map fun (key, group) =>
      q.select.map fun item => (item.outputName, item.expr.valueIn key group)
  else
    (q.scopes literal db).map fun scope =>
      q.select.map fun item => (item.outputName, item.expr.value scope)

end Query

end Sql

end StarPlan
