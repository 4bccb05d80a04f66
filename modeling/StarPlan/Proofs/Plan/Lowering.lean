import Mathlib.Data.List.Perm.Basic
import StarPlan.Plan.Lowering
import StarPlan.Proofs.Plan.Answer

/-!
# The items of a planned query

An entry scatters the items of a request over lists and maps, and its query collects them in
an order of its own: by kind, by dimension, by column. Up to that order nothing is lost and
nothing is doubled. Each decision of a course stands for one expression
(`FieldSource.item`, `AggregateRecord.item`, `FieldSource.condition`), and the query consists of
exactly these. `Entry.outputs` tells for each output column from which item it comes.

`Schema.toQuery_keeps_request` states the outcome in terms of the request and the tables.
-/

namespace StarPlan

open Sql

/-- The column that a source provides; the columns of the fact table are qualified by `fact`. -/
def FieldSource.expr (fact : String) : FieldSource → Expr
  | .native f => .ofTable fact f.column
  | .joined d _ => .ofTable (TableName.shortName d.table.name) d.field.column

/-- The output column of a selected field. -/
def FieldSource.item (fact : String) (field : Alias) (source : FieldSource) : SelectItem :=
  ⟨source.expr fact, some field⟩

/-- The condition of a filter. -/
def FieldSource.condition (fact : String) (item : FilterItem) (source : FieldSource) : Expr :=
  .binary item.op (source.expr fact) (.raw item.condition)

/-- The output column of an answered aggregate item. -/
def AggregateRecord.item (fact : String) : AggregateRecord → SelectItem
  | .ready s => ⟨.ofTable fact s.column, some s.outputAlias⟩
  | .inPlace a => ⟨.aggregate a.calculation (.ofTable fact a.column), some a.outputAlias⟩
  | .joined table _ a =>
    ⟨.aggregate a.calculation (.ofTable (TableName.shortName table) a.column),
      some a.outputAlias⟩

/-- The item for which a column of the fact table is handed out: an aggregate item if the column
holds its results. -/
def PlainSelect.origin (s : PlainSelect) : RequestItem :=
  (s.asked?.map .aggregate).getD (.select s.field)

/-- The item for which an answer is recorded. -/
def AggregateRecord.origin : AggregateRecord → RequestItem
  | .ready s => s.origin
  | .inPlace a | .joined _ _ a => .aggregate a.asked

theorem AggregateRecord.origin_of_asked? {record : AggregateRecord} {item : AggregateItem}
    (asked : record.asked? = some item) : record.origin = .aggregate item := by
  cases record with
  | ready s =>
      rw [AggregateRecord.asked?] at asked
      rw [AggregateRecord.origin, PlainSelect.origin, asked]
      rfl
  | inPlace a | joined table keys a => exact congrArg _ (Option.some.inj asked)

/-- The column of an answer is named for the item that it reports. -/
theorem AggregateRecord.outputName_item {record : AggregateRecord} {item : AggregateItem}
    (asked : record.asked? = some item) (fact : String) :
    (record.item fact).outputName = some (item.field.withCalculation item.calculation) := by
  cases record with
  | ready s => exact congrArg some (s.outputAlias_of_asked? asked)
  | inPlace a => rw [← Option.some.inj asked]; rfl
  | joined table keys a => rw [← Option.some.inj asked]; rfl

/-- If every step adds one thing to a view of the state, up to order, so does a run. -/
private theorem foldl_perm {σ ι β : Type} (view : σ → List β) (step : σ → ι → σ) (item : ι → β)
    (one : ∀ e x, (view (step e x)).Perm (view e ++ [item x])) (l : List ι) (e : σ) :
    (view (l.foldl step e)).Perm (view e ++ l.map item) := by
  induction l generalizing e with
  | nil => simp
  | cons x rest ih =>
      have step := (one e x).append_right (rest.map item)
      rw [List.append_assoc] at step
      exact (ih _).trans step

/-! A list that is one longer makes the whole one longer, whatever stands around it. -/

private theorem perm_concat_append {β : Type} {l l' : List β} {x : β} (grown : l.Perm (l' ++ [x]))
    (back : List β) : (l ++ back).Perm (l' ++ back ++ [x]) := by
  refine (grown.append_right back).trans ?_
  rw [List.append_assoc, List.append_assoc]
  exact List.perm_append_comm.append_left l'

private theorem perm_append_concat {β : Type} {l l' : List β} {x : β} (grown : l.Perm (l' ++ [x]))
    (front : List β) : (front ++ l).Perm (front ++ l' ++ [x]) := by
  rw [List.append_assoc]
  exact grown.append_left front

namespace Entry

variable {α : Type}

theorem groupItems_addToGroup (groups : Keyed (JoinGroup α)) (table : TableName)
    (keys : JoinKeys) (item : α) :
    (groupItems (groups.addToGroup table keys item)).Perm
      (groupItems groups ++ [(TableName.shortName table, item)]) := by
  apply Keyed.flatMap_alter_perm groups _ table _ _
  cases groups.get? table <;> simp [Keyed.collected]

theorem toQuery_select (e : Entry) (table : TableName) :
    (e.toQuery table).select =
      e.plainItems table.shortName ++ e.aggregateItems table.shortName ++ e.joinedItems ++
        e.joinedAggregateItems := rfl

/-- The output columns of the query of an entry, in their order, each with the item that it comes
from. -/
def outputs (e : Entry) (fact : String) : List (RequestItem × SelectItem) :=
  e.selects.map (fun s => (s.origin, ⟨.ofTable fact s.column, some s.outputAlias⟩)) ++
    e.aggregations.map (fun a => (.aggregate a.asked,
      ⟨.aggregate a.calculation (.ofTable fact a.column), some a.outputAlias⟩)) ++
    (groupItems e.joinSelects).map (fun (table, f) => (.select f.field,
      ⟨.ofTable table f.column, some f.field⟩)) ++
    (groupItems e.joinAggregations).map fun (table, a) => (.aggregate a.asked,
      ⟨.aggregate a.calculation (.ofTable table a.column), some a.outputAlias⟩)

theorem map_snd_outputs (e : Entry) (table : TableName) :
    (e.outputs table.shortName).map (·.2) = (e.toQuery table).select := by
  rw [outputs, List.map_append, List.map_append, List.map_append, List.map_map, List.map_map,
    List.map_map, List.map_map]
  rfl

theorem select_outputs (e : Entry) (fact : String) (field : Alias) (source : FieldSource) :
    ((e.select field source).outputs fact).Perm
      (e.outputs fact ++ [(.select field, source.item fact field)]) := by
  unfold outputs
  cases source with
  | native f =>
      refine perm_concat_append (perm_concat_append (perm_concat_append ?_ _) _) _
      exact .of_eq List.map_append
  | joined d keys =>
      have joined := groupItems_addToGroup e.joinSelects d.table.name keys ⟨d.field.column, field⟩
      refine perm_concat_append (perm_append_concat ((joined.map _).trans ?_) _) _
      exact .of_eq List.map_append

theorem record_outputs (e : Entry) (fact : String) (record : AggregateRecord) :
    ((e.record record).outputs fact).Perm
      (e.outputs fact ++ [(record.origin, record.item fact)]) := by
  unfold outputs
  cases record with
  | ready s =>
      refine perm_concat_append (perm_concat_append (perm_concat_append ?_ _) _) _
      exact .of_eq List.map_append
  | inPlace a =>
      refine perm_concat_append (perm_concat_append (perm_append_concat ?_ _) _) _
      exact .of_eq List.map_append
  | joined table keys a =>
      have joined := groupItems_addToGroup e.joinAggregations table keys a
      refine perm_append_concat ((joined.map _).trans ?_) _
      exact .of_eq List.map_append

theorem filter_toQuery (e : Entry) (table : TableName) (item : FilterItem)
    (source : FieldSource) :
    ((e.filter item source).toQuery table).filters.Perm
      ((e.toQuery table).filters ++ [source.condition table.shortName item]) := by
  show ((e.filter item source).filters table.shortName).Perm
    (e.filters table.shortName ++ [source.condition table.shortName item])
  unfold filters
  cases source with
  | native f =>
      have own := Keyed.flatMap_alter_perm e.ownFilters
        (fun entry => entry.2.map (comparison table.shortName entry.1)) f.column
        (fun cs => cs.getD [] ++ [⟨item.op, item.condition⟩])
        [(FieldSource.native f).condition table.shortName item]
        (by cases e.ownFilters.get? f.column <;> simp [Keyed.collected] <;> rfl)
      exact perm_concat_append own _
  | joined d keys =>
      have joined := groupItems_addToGroup e.joinFilters d.table.name keys
        ⟨d.field.column, ⟨item.op, item.condition⟩⟩
      refine perm_append_concat ((joined.map _).trans ?_) _
      exact .of_eq List.map_append

end Entry

namespace Course

variable (c : Course) (t : FactTable) (table : TableName)

/-- The output columns are those of the decisions. -/
theorem outputs_entry (fact : String) :
    ((c.entry t).outputs fact).Perm
      (c.selects.map (fun p => (.select p.1, p.2.item fact p.1)) ++
        c.records.map fun p => (p.2.origin, p.2.item fact)) := by
  have selects := foldl_perm (fun e : Entry => e.outputs fact)
    (fun e p => e.select p.1 p.2) (fun p => (.select p.1, p.2.item fact p.1))
    (fun e p => e.select_outputs fact p.1 p.2) c.selects (Entry.start t)
  have records := foldl_perm (fun e : Entry => e.outputs fact)
    (fun e p => e.record p.2) (fun p => (p.2.origin, p.2.item fact))
    (fun e (p : AggregateItem × AggregateRecord) => e.record_outputs fact p.2) c.records
    (((Entry.start t).selectAll c.selects).filterAll c.filters)
  have filters : (((Entry.start t).selectAll c.selects).filterAll c.filters).outputs fact =
      ((Entry.start t).selectAll c.selects).outputs fact := by
    rw [Entry.filterAll_frame]
    rfl
  rw [filters] at records
  exact records.trans (selects.append_right _)

theorem toQuery_select :
    ((c.entry t).toQuery table).select.Perm
      (c.selects.map (fun p => p.2.item table.shortName p.1) ++
        c.records.map fun p => p.2.item table.shortName) := by
  have outputs := (c.outputs_entry t table.shortName).map (·.2)
  rw [Entry.map_snd_outputs, List.map_append, List.map_map, List.map_map] at outputs
  exact outputs

theorem toQuery_filters :
    ((c.entry t).toQuery table).filters.Perm
      (c.filters.map fun p => p.2.condition table.shortName p.1) := by
  have filters := foldl_perm (fun e : Entry => (e.toQuery table).filters)
    (fun e p => e.filter p.1 p.2) (fun p => p.2.condition table.shortName p.1)
    (fun e p => e.filter_toQuery table p.1 p.2) c.filters ((Entry.start t).selectAll c.selects)
  have before : (((Entry.start t).selectAll c.selects).toQuery table).filters = [] := by
    rw [Entry.selectAll_frame]
    rfl
  have after : ((c.entry t).toQuery table).filters =
      ((((Entry.start t).selectAll c.selects).filterAll c.filters).toQuery table).filters := by
    rw [entry, Entry.recordAll_frame]
    rfl
  rw [before, List.nil_append] at filters
  rw [after]
  exact filters

end Course

namespace FactTable

/-- The column that stands for an alias: the table's own plain column if it has one, else the
column of the dimension that exposes the alias. -/
def Reads (s : Schema) (t : FactTable) (name : Alias) (column : Expr) : Prop :=
  (∃ f ∈ t.fields, f.name = name ∧ f.calculation = none ∧
    column = .ofTable (TableName.shortName t.name) f.column) ∨
  (name ∉ t.plainAliases ∧ ∃ d, s.Exposes name d ∧
    column = .ofTable (TableName.shortName d.table.name) d.field.column)

variable {s : Schema} {o : Options} {t : FactTable} {e : Entry}

theorem reads_of_locate? (sound : s.Sound) (built : t.Built) {name : Alias}
    {source : FieldSource} (found : t.locate? s name = some source) :
    t.Reads s name (source.expr (TableName.shortName t.name)) := by
  cases source with
  | native f =>
      obtain ⟨member, named, plain⟩ :=
        built.plainField?_eq_some_iff.1 (locate?_eq_native_iff.1 found)
      exact .inl ⟨f, member, named, plain, rfl⟩
  | joined d keys =>
      obtain ⟨absent, looked, -⟩ := locate?_eq_joined_iff.1 found
      have foreign : name ∉ t.plainAliases := by
        rw [← built.isSome_plainField?_iff, absent]
        exact Bool.false_ne_true
      exact .inr ⟨foreign, d, sound.lookupDimension_eq_some_iff.1 looked, rfl⟩

/-- The names of the output columns, in some order, are those that the request asks for. -/
theorem outputNames_toQuery {r : Request} (serves : t.Serves s o r) (table : TableName) :
    ((((t.course s o r).entry t).toQuery table).select.map (·.outputName)).Perm
      ((r.select ++ r.aggregate.map fun i => i.field.withCalculation i.calculation).map some) := by
  refine (((t.course s o r).toQuery_select t table).map _).trans (.of_eq ?_)
  simp only [← serves.map_fst_selects, ← serves.map_fst_records, List.map_append, List.map_map]
  refine congrArg₂ (· ++ ·) rfl (List.map_congr_left fun p listed => ?_)
  exact AggregateRecord.outputName_item (asked?_of_answer? (mem_answered_iff.1 listed).2) _

end FactTable

namespace Schema

/-- The names of the output columns are those that the request asks for, and each filter of the
request stands in the query with its operator and text on the column of its alias. -/
theorem toQuery_keeps_request {s : Schema} (built : s.Built) {t : FactTable}
    (member : t ∈ s.facts.values) {r : Request} {o : Options} {e : Entry}
    (survives : (s.plan r o).live.get? t.name = some e) :
    (e.toQuery t.name).select.length = r.select.length + r.aggregate.length ∧
      ((e.toQuery t.name).select.map (·.outputName)).Perm
        ((r.select ++ r.aggregate.map fun i => i.field.withCalculation i.calculation).map some) ∧
      (e.toQuery t.name).filters.length = r.filter.length ∧
      ∃ filters : List FilterItem, filters.Perm r.filter ∧
        List.Forall₂ (fun expr item => ∃ column, t.Reads s item.field column ∧
          expr = .binary item.op column (.raw item.condition))
          (e.toQuery t.name).filters filters := by
  have sound := built.sound
  obtain ⟨serves, rfl⟩ := (plan_live_eq_some_iff sound member).1 survives
  have select := (t.course s o r).toQuery_select t t.name
  have filters := (t.course s o r).toQuery_filters t t.name
  have selected : (t.course s o r).selects.map (·.1) = r.select := map_fst_answered serves.select
  have filtered : (t.course s o r).filters.map (·.1) = r.filter := map_fst_answered serves.filter
  have recorded : (t.course s o r).records.map (·.1) = r.aggregate :=
    map_fst_answered serves.aggregate
  refine ⟨?_, FactTable.outputNames_toQuery serves t.name, ?_, ?_⟩
  · rw [select.length_eq, List.length_append, List.length_map, List.length_map, ← selected,
      ← recorded, List.length_map, List.length_map]
  · rw [filters.length_eq, List.length_map, ← filtered, List.length_map]
  · obtain ⟨items, matched, order⟩ := List.perm_comp_forall₂
      (r := fun expr item => ∃ column, t.Reads s item.field column ∧
        expr = .binary item.op column (.raw item.condition)) (v := r.filter) filters (by
      rw [← filtered, List.forall₂_map_left_iff, List.forall₂_map_right_iff, List.forall₂_same]
      intro p listed
      exact ⟨_, FactTable.reads_of_locate? sound (sound.fact member) (mem_answered_iff.1 listed).2,
        rfl⟩)
    exact ⟨items, order, matched⟩

theorem toQuery_keeps_request_games :
    let r : Request := ⟨["genre", "year"], [⟨"game", .countDistinct⟩, ⟨"amount", .sum⟩],
      [⟨"genre", .eq, "'rpg'"⟩, ⟨"year", .ge, "2020"⟩, ⟨"genre", .ne, "'puzzle'"⟩]⟩
    ∃ e, (Games.star.plan r .standard).live.get? Games.sales.name = some e ∧
      ((e.toQuery Games.sales.name).select.map (·.outputName)).Perm
        [some "genre", some "year", some "game__count_distinct", some "amount__sum"] ∧
      (e.toQuery Games.sales.name).filters.length = 3 := by
  intro r
  have live : (Games.star.plan r .standard).live.contains Games.sales.name = true := by decide
  obtain ⟨e, survives⟩ := Keyed.contains_iff.1 live
  obtain ⟨-, names, conditions, -⟩ :=
    toQuery_keeps_request Games.star_built (by decide) survives
  exact ⟨e, survives, names.trans (.of_eq (by decide)), conditions⟩

end Schema

end StarPlan
