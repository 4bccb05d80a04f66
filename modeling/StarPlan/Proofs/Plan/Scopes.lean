import Mathlib.Data.List.Nodup
import StarPlan.Proofs.Plan.Lowering
import StarPlan.Proofs.Request.Answer

/-!
# What a planned query has in scope

A planned query joins each dimension by one equation of keys. If every row of the fact table
leads to one row of each dimension, the joins neither lose nor double a row, and each row has
its dimension rows in scope under their short names (`FactTable.exists_scope`). A planned query
with aggregates groups by all its other columns (`Entry.groupsRest_toQuery`).
-/

namespace StarPlan

open Sql

variable {V : Type}

/-- The row of a table that a row leads to by an equation of keys. -/
def Database.follow [DecidableEq V] (db : Database V) (table : TableName) (keys : JoinKeys)
    (row : Record V) : Option (Record V) :=
  (row keys.fact).bind fun v => (db table).find? fun other => other keys.dimension == some v

/-- A row leads to exactly one row of a table by an equation of keys. -/
def Database.LeadsToOne [DecidableEq V] (db : Database V) (table : TableName) (keys : JoinKeys)
    (row : Record V) : Prop :=
  ∃ v, row keys.fact = some v ∧
    ∃ other, ((db table).filter fun other => other keys.dimension == some v) = [other]

/-- The short names of the tables of a schema are distinct. -/
def Schema.ShortNamesDistinct (s : Schema) : Prop :=
  ((s.facts.names ++ s.dimensions.names).map TableName.shortName).Nodup

instance (s : Schema) : Decidable s.ShortNamesDistinct :=
  inferInstanceAs (Decidable (List.Nodup _))

/-- The join of a dimension by an equation of keys. -/
def JoinKeys.join (fact : String) (table : TableName) (keys : JoinKeys) : Join :=
  ⟨table, [.binary .eq (.ofTable fact keys.fact)
    (.ofTable (TableName.shortName table) keys.dimension)]⟩

section

variable [Domain V] {db : Database V}

theorem Database.LeadsToOne.exists_follow {table : TableName} {keys : JoinKeys} {row : Record V}
    (leads : db.LeadsToOne table keys row) :
    ∃ v other, row keys.fact = some v ∧ db.follow table keys row = some other ∧
      ((db table).filter fun other => other keys.dimension == some v) = [other] := by
  obtain ⟨v, held, other, only⟩ := leads
  refine ⟨v, other, held, ?_, only⟩
  rw [follow, held, Option.bind_some, ← List.head?_filter, only]
  rfl

theorem JoinKeys.extend_join (literal : Literals V) {fact : String} {table : TableName}
    {keys : JoinKeys} {scope : Scope V} {row : Record V} (inScope : scope fact = row)
    (apart : fact ≠ table.shortName) (leads : db.LeadsToOne table keys row) :
    ∃ other, db.follow table keys row = some other ∧
      (keys.join fact table).extend literal db scope =
        {Function.update scope table.shortName other} := by
  obtain ⟨v, other, held, followed, only⟩ := leads.exists_follow
  refine ⟨other, followed, ?_⟩
  have condition : ∀ candidate : Record V,
      (keys.join fact table).on.all
          (·.holds literal (Function.update scope table.shortName candidate)) =
        (candidate keys.dimension == some v) := by
    intro candidate
    rw [join, List.all_cons, List.all_nil, Bool.and_true, Expr.holds_columns,
      Function.update_of_ne apart, Function.update_self, inScope, held, Option.any_some]
  have matching := (List.filter_congr fun candidate _ => condition candidate).trans only
  rw [Join.extend, List.filter_map]
  exact congrArg (fun rows : List (Record V) =>
    ((rows.map (Function.update scope table.shortName) : List (Scope V)) : Multiset (Scope V)))
    matching

/-- Joins that find one row each put it in scope beside what is there. -/
theorem exists_scope_of_joins (literal : Literals V) {fact : String} {rows : List (Record V)}
    (joins : List (TableName × JoinKeys))
    (distinct : (joins.map fun p => TableName.shortName p.1).Nodup)
    (apart : ∀ p ∈ joins, fact ≠ TableName.shortName p.1)
    (leads : ∀ p ∈ joins, ∀ row ∈ rows, db.LeadsToOne p.1 p.2 row)
    {scope : Record V → Scope V} (inScope : ∀ row ∈ rows, scope row fact = row) :
    ∃ scope' : Record V → Scope V,
      (joins.map fun p => p.2.join fact p.1).foldl
          (fun scopes join => scopes.bind (join.extend literal db))
          ((rows : Multiset (Record V)).map scope) =
        (rows : Multiset (Record V)).map scope' ∧
      (∀ row ∈ rows, scope' row fact = row) ∧
      (∀ name, (∀ p ∈ joins, TableName.shortName p.1 ≠ name) →
        ∀ row ∈ rows, scope' row name = scope row name) ∧
      ∀ p ∈ joins, ∀ row ∈ rows,
        db.follow p.1 p.2 row = some (scope' row (TableName.shortName p.1)) := by
  induction joins generalizing scope with
  | nil => exact ⟨scope, rfl, inScope, fun _ _ _ _ => rfl, nofun⟩
  | cons p rest ih =>
      obtain ⟨fresh, distinct⟩ := List.nodup_cons.1 distinct
      let next : Record V → Scope V := fun row =>
        Function.update (scope row) (TableName.shortName p.1)
          ((db.follow p.1 p.2 row).getD fun _ => none)
      have found : ∀ row ∈ rows,
          db.follow p.1 p.2 row = some (next row (TableName.shortName p.1)) ∧
            (p.2.join fact p.1).extend literal db (scope row) = {next row} := by
        intro row member
        obtain ⟨other, followed, extended⟩ := JoinKeys.extend_join literal (inScope row member)
          (apart p List.mem_cons_self) (leads p List.mem_cons_self row member)
        simp only [next, followed, Option.getD_some, Function.update_self]
        exact ⟨trivial, extended⟩
      have first : ((rows : Multiset (Record V)).map scope).bind
          ((p.2.join fact p.1).extend literal db) = (rows : Multiset (Record V)).map next := by
        rw [Multiset.bind_map, ← Multiset.bind_singleton]
        exact Multiset.bind_congr fun row member => (found row member).2
      have still : ∀ row ∈ rows, next row fact = row := fun row member =>
        (Function.update_of_ne (apart p List.mem_cons_self) ..).trans (inScope row member)
      obtain ⟨scope', joined, own, others, followed⟩ := ih distinct
        (fun q member => apart q (List.mem_cons_of_mem p member))
        (fun q member => leads q (List.mem_cons_of_mem p member)) still
      refine ⟨scope', ?_, own, ?_, ?_⟩
      · rw [List.map_cons, List.foldl_cons, first, joined]
      · intro name foreign row member
        rw [others name (fun q listed => foreign q (List.mem_cons_of_mem p listed)) row member]
        exact Function.update_of_ne (foreign p List.mem_cons_self).symm ..
      · intro q listed row member
        rcases List.mem_cons.1 listed with rfl | listed
        · have untouched : ∀ p ∈ rest, TableName.shortName p.1 ≠ TableName.shortName q.1 :=
            fun p listed same => fresh (List.mem_map.2 ⟨p, listed, same⟩)
          rw [others _ untouched row member]
          exact (found row member).1
        · exact followed q listed row member

end

namespace Entry

variable (e : Entry) (table : TableName)

theorem any_isAggregate_toQuery :
    (e.toQuery table).select.any (·.expr.isAggregate) = e.hasAggregation := by
  have own : (e.plainItems table.shortName).any (·.expr.isAggregate) = false := by
    simp [plainItems, Expr.ofTable, Expr.isAggregate]
  have joined : e.joinedItems.any (·.expr.isAggregate) = false := by
    simp [joinedItems, Expr.ofTable, Expr.isAggregate]
  have ownAggregates : (e.aggregateItems table.shortName).any (·.expr.isAggregate) =
      !e.aggregations.isEmpty := by
    rw [aggregateItems, List.any_map]
    cases e.aggregations <;> rfl
  have joinedAggregates : e.joinedAggregateItems.any (·.expr.isAggregate) =
      e.joinAggregations.values.any fun group => !group.items.isEmpty := by
    rw [joinedAggregateItems, groupItems, Keyed.values, List.any_map, List.any_flatMap,
      List.any_map]
    refine congrArg (List.any _) (funext fun group => ?_)
    rw [List.any_map, Function.comp_apply]
    cases group.2.items <;> rfl
  show (_ ++ _ ++ _ ++ _ : List SelectItem).any _ = _
  rw [List.any_append, List.any_append, List.any_append, own, joined, ownAggregates,
    joinedAggregates, Bool.false_or, Bool.or_false]
  rfl

theorem plainExprs_toQuery :
    (e.toQuery table).plainExprs =
      (e.plainItems table.shortName ++ e.joinedItems).map (·.expr) := by
  have plain : ∀ {α : Type} (l : List α) (f : α → SelectItem),
      (∀ a, (f a).expr.isAggregate = false) →
        (l.map f).filter (fun item => !item.expr.isAggregate) = l.map f := by
    intro α l f none
    apply List.filter_eq_self.2
    intro item member
    obtain ⟨a, -, rfl⟩ := List.mem_map.1 member
    rw [none, Bool.not_false]
  have aggregate : ∀ {α : Type} (l : List α) (f : α → SelectItem),
      (∀ a, (f a).expr.isAggregate = true) →
        (l.map f).filter (fun item => !item.expr.isAggregate) = [] := by
    intro α l f all
    apply List.filter_eq_nil_iff.2
    intro item member
    obtain ⟨a, -, rfl⟩ := List.mem_map.1 member
    rw [all, Bool.not_true]
    exact Bool.false_ne_true
  show ((_ ++ _ ++ _ ++ _ : List SelectItem).filter _).map _ = _
  rw [List.filter_append, List.filter_append, List.filter_append, plainItems, aggregateItems,
    joinedItems, joinedAggregateItems, plain _ _ fun _ => rfl, aggregate _ _ fun _ => rfl,
    plain _ _ fun _ => rfl, aggregate _ _ fun _ => rfl, List.append_nil, List.append_nil]

theorem groupsRest_toQuery : (e.toQuery table).GroupsRest := by
  rw [Query.GroupsRest, any_isAggregate_toQuery, plainExprs_toQuery]
  rfl

end Entry

namespace FactTable

variable {s : Schema} {o : Options} {t : FactTable} {r : Request}

/-- A table joins a dimension of the schema by the dimension's key, which it carries. -/
def Joins (s : Schema) (t : FactTable) (table : TableName) (keys : JoinKeys) : Prop :=
  ∃ name d, s.Exposes name d ∧ d.table.name = table ∧ t.joinKeys? d = some keys

theorem Joins.unique (sound : s.Sound) {table : TableName} {keys keys' : JoinKeys}
    (joins : t.Joins s table keys) (joins' : t.Joins s table keys') : keys = keys' := by
  obtain ⟨_, d, exposed, rfl, held⟩ := joins
  obtain ⟨_, d', exposed', named, held'⟩ := joins'
  have sameTable : d.table = d'.table :=
    sound.dimension_eq_of_name exposed.table exposed'.table named.symm
  have sameKey : d.serviceKey = d'.serviceKey :=
    (sound.dimension exposed.table).key_unique exposed.key (sameTable ▸ exposed'.key)
      exposed.isKey exposed'.isKey
  rw [joinKeys?, sameKey, ← joinKeys?, held'] at held
  exact (Option.some.inj held).symm

theorem joins_of_locate? (sound : s.Sound) {name : Alias} {source : FieldSource}
    (found : t.locate? s name = some source) {p : TableName × JoinKeys}
    (joined : source.join? = some p) : t.Joins s p.1 p.2 := by
  cases source with
  | native f => cases joined
  | joined d keys =>
      obtain rfl := Option.some.inj joined
      obtain ⟨-, looked, held⟩ := locate?_eq_joined_iff.1 found
      exact ⟨name, d, sound.lookupDimension_eq_some_iff.1 looked, rfl, held⟩

theorem join?_of_direct? {e : Entry} {lookup : Alias} {item : AggregateItem}
    {record : AggregateRecord} (found : t.direct? e lookup item = some record) :
    record.join? = none := by
  obtain ⟨f, -, ⟨-, rfl⟩ | ⟨-, -, rfl⟩ | ⟨-, -, -, rfl⟩⟩ := direct?_eq_some_iff.1 found <;> rfl

theorem joins_of_answer? (sound : s.Sound) {e : Entry} {item : AggregateItem}
    {record : AggregateRecord} (found : t.answer? s o e item = some record)
    {p : TableName × JoinKeys} (joined : record.join? = some p) : t.Joins s p.1 p.2 := by
  rw [answer?_eq, Option.or_eq_some_iff, Option.or_eq_some_iff] at found
  rcases found with (substituted | ⟨-, direct⟩) | ⟨-, byJoin⟩
  · obtain ⟨d, -, -, counted⟩ := substituted?_eq_some_iff.1 substituted
    rw [join?_of_direct? counted] at joined
    cases joined
  · rw [join?_of_direct? direct] at joined
    cases joined
  · obtain ⟨d, keys, looked, held, rfl⟩ := joined?_eq_some_iff.1 byJoin
    obtain rfl := Option.some.inj joined
    exact ⟨item.field, d, sound.lookupDimension_eq_some_iff.1 looked, rfl, held⟩

theorem joins_of_course (sound : s.Sound) {p : TableName × JoinKeys}
    (listed : p ∈ (t.course s o r).joins) : t.Joins s p.1 p.2 := by
  rcases Course.mem_joins_iff.1 listed with
    ⟨q, member, joined⟩ | ⟨q, member, joined⟩ | ⟨q, member, joined⟩
  · exact joins_of_locate? sound (mem_answered_iff.1 member).2 joined
  · exact joins_of_answer? sound (mem_answered_iff.1 member).2 joined
  · exact joins_of_locate? sound (mem_answered_iff.1 member).2 joined

/-- Of one dimension a course decides on one join. -/
theorem joins_course_unique (sound : s.Sound) :
    ∀ p ∈ (t.course s o r).joins, ∀ q ∈ (t.course s o r).joins, p.1 = q.1 → p.2 = q.2 := by
  rintro ⟨table, keys⟩ listed ⟨_, keys'⟩ listed' rfl
  exact (joins_of_course sound listed).unique sound (joins_of_course sound listed')

/-- The entry of a course joins exactly what the course decides to join. -/
theorem mem_joinTables_iff (sound : s.Sound) {p : TableName × JoinKeys} :
    p ∈ ((t.course s o r).entry t).joinTables.entries ↔ p ∈ (t.course s o r).joins := by
  rw [← Keyed.lookup_eq_some_iff (joins_course_unique sound), ← Course.get?_joinTables _ t,
    Keyed.get?_eq_some_iff]

theorem Joins.mem_names (sound : s.Sound) {table : TableName} {keys : JoinKeys}
    (joins : t.Joins s table keys) : table ∈ s.dimensions.names := by
  obtain ⟨_, d, exposed, rfl, -⟩ := joins
  exact List.mem_map_of_mem (Keyed.get?_eq_some_iff.1 (sound.get?_dimension exposed.table))

variable [Domain V] {db : Database V}

/-- Where every row leads to one row of each joined dimension, the joins of a planned query
bring these rows into scope, and the rows of the fact table are in scope once each. -/
theorem exists_scope (sound : s.Sound) (distinct : s.ShortNamesDistinct)
    (member : t ∈ s.facts.values) (literal : Literals V)
    (leads : ∀ table keys, t.Joins s table keys →
      ∀ row ∈ db t.name, db.LeadsToOne table keys row) :
    ∃ scope : Record V → Scope V,
      (((t.course s o r).entry t).toQuery t.name).joinedScopes literal db =
        (db t.name : Multiset (Record V)).map scope ∧
      (∀ row ∈ db t.name, scope row t.name.shortName = row) ∧
      ∀ p ∈ (t.course s o r).joins, ∀ row ∈ db t.name,
        db.follow p.1 p.2 row = some (scope row (TableName.shortName p.1)) := by
  have joins : ∀ p ∈ ((t.course s o r).entry t).joinTables.entries, t.Joins s p.1 p.2 :=
    fun p listed => joins_of_course sound ((mem_joinTables_iff sound).1 listed)
  have injective := List.inj_on_of_nodup_map distinct
  have isDimension : ∀ p ∈ ((t.course s o r).entry t).joinTables.entries,
      p.1 ∈ s.facts.names ++ s.dimensions.names :=
    fun p listed => List.mem_append_right _ ((joins p listed).mem_names sound)
  have isFact : t.name ∈ s.facts.names :=
    List.mem_map_of_mem (Keyed.get?_eq_some_iff.1 (sound.get?_fact member))
  have shortNames : (((t.course s o r).entry t).joinTables.entries.map
      fun p => TableName.shortName p.1).Nodup := by
    have names := ((t.course s o r).entry t).joinTables.nodup_names
    rw [← Function.comp_def TableName.shortName, ← List.map_map]
    apply names.map_on
    intro a ha b hb same
    obtain ⟨p, hp, rfl⟩ := List.mem_map.1 ha
    obtain ⟨q, hq, rfl⟩ := List.mem_map.1 hb
    exact injective (isDimension p hp) (isDimension q hq) same
  have apart : ∀ p ∈ ((t.course s o r).entry t).joinTables.entries,
      t.name.shortName ≠ TableName.shortName p.1 := by
    intro p listed same
    have one := injective (List.mem_append_left _ isFact) (isDimension p listed) same
    exact (List.nodup_append.1 distinct.of_map).2.2 t.name isFact p.1
      ((joins p listed).mem_names sound) one
  let alone : Record V → Scope V := Function.update (fun _ _ => none) t.name.shortName
  have inScope : ∀ row ∈ db t.name, alone row t.name.shortName = row :=
    fun row _ => Function.update_self ..
  obtain ⟨scope, joined, own, -, followed⟩ := exists_scope_of_joins literal
    ((t.course s o r).entry t).joinTables.entries shortNames apart
    (fun p listed => leads p.1 p.2 (joins p listed)) inScope
  exact ⟨scope, joined, own, fun p listed =>
    followed p ((mem_joinTables_iff sound).2 listed)⟩

end FactTable

/-- What the answer to an aggregate item aggregates. -/
def AggregateRecord.operand (fact : String) : AggregateRecord → Expr
  | .ready s => .ofTable fact s.column
  | .inPlace a => .ofTable fact a.column
  | .joined table _ a => .ofTable (TableName.shortName table) a.column

namespace Course

variable [Domain V] {β : Type}

/-- What WHERE leaves are the rows that pass the filters of the request. -/
theorem scopes_toQuery (c : Course) (t : FactTable) {literal : Literals V} {db : Database V}
    {r : Request} {scope : Record V → Scope V} {row : Record V → Record V}
    (filter : c.filters.map (·.1) = r.filter)
    (joined : ((c.entry t).toQuery t.name).joinedScopes literal db =
      (db t.name : Multiset (Record V)).map scope)
    (filtered : ∀ p ∈ c.filters, ∀ a ∈ db t.name,
      (p.2.expr t.name.shortName).value (scope a) = row a p.1.field) :
    ((c.entry t).toQuery t.name).scopes literal db =
      ((db t.name : Multiset (Record V)).filter fun a => r.keeps literal (row a)).map scope := by
  rw [Query.scopes, joined, Multiset.filter_map]
  refine congrArg _ (Multiset.filter_congr fun a member => ?_)
  rw [Function.comp_apply, (c.toQuery_filters t t.name).all_eq, Request.keeps, ← filter,
    List.all_map, List.all_map, List.all_eq_true, List.all_eq_true]
  refine forall_congr' fun p => imp_congr_right fun listed => ?_
  show literal p.1.op p.1.condition ((p.2.expr t.name.shortName).value (scope a)) = true ↔ _
  rw [filtered p listed a member]
  rfl

/-- If what a course decides on is what the request is about, its query asks the same. -/
theorem realizes (c : Course) (t : FactTable) {literal : Literals V} {db : Database V}
    {r : Request} {scope : Record V → Scope V} {row : Record V → Record V}
    {view : List (Option String × Option V) → β}
    (select : c.selects.map (·.1) = r.select) (filter : c.filters.map (·.1) = r.filter)
    (aggregate : c.records.map (·.1) = r.aggregate)
    (items : ∀ p ∈ c.records, p.2.item t.name.shortName =
      .ofAggregate (p.1, p.2.operand t.name.shortName))
    (order : ∀ cell : SelectItem → Option V,
      view (((c.entry t).toQuery t.name).select.map fun item => (item.outputName, cell item)) =
        view ((c.selects.map (fun p => p.2.item t.name.shortName p.1) ++
          c.records.map fun p => p.2.item t.name.shortName).map
            fun item => (item.outputName, cell item)))
    (joined : ((c.entry t).toQuery t.name).joinedScopes literal db =
      (db t.name : Multiset (Record V)).map scope)
    (selected : ∀ p ∈ c.selects, ∀ a ∈ db t.name,
      (p.2.expr t.name.shortName).value (scope a) = row a p.1)
    (filtered : ∀ p ∈ c.filters, ∀ a ∈ db t.name,
      (p.2.expr t.name.shortName).value (scope a) = row a p.1.field)
    (result : ∀ p ∈ c.records, ∀ group ≤ (db t.name : Multiset (Record V)),
      p.1.calculation.result (group.map fun a =>
          (p.2.operand t.name.shortName).value (scope a)) =
        p.1.calculation.result (group.map fun a => row a p.1.field)) :
    ((c.entry t).toQuery t.name).Realizes literal db r
      (c.selects.map fun p => (p.1, p.2.expr t.name.shortName))
      (c.records.map fun p => (p.1, p.2.operand t.name.shortName)) scope row view := by
  have requested : requestedItems (c.selects.map fun p => (p.1, p.2.expr t.name.shortName))
      (c.records.map fun p => (p.1, p.2.operand t.name.shortName)) =
        c.selects.map (fun p => p.2.item t.name.shortName p.1) ++
          c.records.map fun p => p.2.item t.name.shortName := by
    rw [requestedItems, List.map_map, List.map_map]
    exact congrArg _ (List.map_congr_left fun p member => (items p member).symm)
  refine {
    groups := (c.entry t).groupsRest_toQuery t.name
    select := by rw [List.map_map]; exact select
    aggregate := by rw [List.map_map]; exact aggregate
    plain := ?_
    items := requested ▸ c.toQuery_select t t.name
    order := fun cell => requested ▸ order cell
    scopes := c.scopes_toQuery t filter joined filtered
    cell := ?_
    result := ?_ }
  · intro p listed
    obtain ⟨q, -, rfl⟩ := List.mem_map.1 listed
    cases q.2 <;> rfl
  · intro p listed a member
    obtain ⟨q, decided, rfl⟩ := List.mem_map.1 listed
    exact selected q decided a member
  · intro p listed group within
    obtain ⟨q, decided, rfl⟩ := List.mem_map.1 listed
    exact result q decided group within

end Course

/-! Rows for the star of game sales, among them a sale without an amount and a game without a
genre. -/

namespace Games

def rowOf (cells : List (String × Option ℚ)) : Record ℚ := fun column =>
  (cells.lookup column).join

def sale (game year store : ℚ) (amount : Option ℚ) : Record ℚ :=
  rowOf [("fk_game", some game), ("sold_year", some year), ("store_code", some store),
    ("amount_eur", amount)]

def content : Database ℚ
  | "shop.dim_game" =>
    [rowOf [("sk_game", some 1), ("title", some 101), ("genre_name", some 7)],
      rowOf [("sk_game", some 2), ("title", some 102), ("genre_name", some 7)],
      rowOf [("sk_game", some 3), ("title", some 103), ("genre_name", none)]]
  | "shop.sales" =>
    [sale 1 2021 5 (some 30), sale 2 2022 5 none, sale 1 2022 6 (some 12), sale 3 2019 5 (some 50)]
  | "shop.sales_by_year" =>
    [rowOf [("y", some 2021), ("s", some 5), ("total", some 30)],
      rowOf [("y", some 2022), ("s", some 5), ("total", none)],
      rowOf [("y", some 2022), ("s", some 6), ("total", some 12)],
      rowOf [("y", some 2019), ("s", some 5), ("total", some 50)]]
  | _ => []

def literal : Literals ℚ
  | .ge, "2020", some v => 2020 ≤ v
  | _, _, _ => false

end Games

end StarPlan
