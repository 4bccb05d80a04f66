import StarPlan.Proofs.Plan.Scopes

/-!
# The planned query means the request

A request is about the rows of a fact table together with the attributes of the dimension rows
that they lead to (`FactTable.extend`). For a table without stored calculations the planned
query gives the answer to the request over these rows, whatever is in the database, provided
that keys lead where they should (`Schema.answer_toQuery`).

Three things could go wrong and do not: a column is read off the wrong table, a join changes
the number of rows, or a key is counted in place of an attribute that it does not tell apart.
-/

namespace StarPlan

open Sql

variable {V : Type}

/-- The cells of an output row by name. -/
def byName (row : List (Option String × Option V)) (name : String) : Option (Option V) :=
  row.lookup (some name)

/-- Under distinct names the order of the cells does not count. -/
theorem byName_eq_of_perm {row row' : List (Option String × Option V)} (perm : row.Perm row')
    (distinct : (row.map (·.1)).Nodup) : byName row = byName row' := by
  have distinct' := (perm.map (·.1)).nodup_iff.1 distinct
  funext name
  apply Option.ext
  intro cell
  constructor
  · exact fun found => Keyed.lookup_of_mem distinct' (perm.mem_iff.1 (Keyed.mem_of_lookup found))
  · exact fun found => Keyed.lookup_of_mem distinct (perm.mem_iff.2 (Keyed.mem_of_lookup found))

variable [Domain V]

/-- A row of a fact table by aliases: its own columns first, then the attributes of the
dimension rows that it leads to. -/
def FactTable.extend (s : Schema) (db : Database V) (t : FactTable) (row : Record V) :
    Record V := fun name =>
  match t.field? name with
  | some f => row f.column
  | none => (s.lookupDimension name).bind fun d =>
      (t.field? d.serviceKey.name).bind fun key =>
        (db.follow d.table.name ⟨key.column, d.serviceKey.column⟩ row).bind fun other =>
          other d.field.column

/-- A column of a fact table has the alias of the key of a dimension. -/
structure FactTable.Carries (s : Schema) (t : FactTable) (d : DimensionTable)
    (own : FactField) (key : DimensionField) : Prop where
  table : d ∈ s.dimensions.values
  ofTable : own ∈ t.fields
  ofDimension : key ∈ d.fields
  isKey : key.isKey = true
  named : own.name = key.name

/-- The contents of a star: rows of the fact table lead to one row of each dimension, and where
an attribute may be counted by the key it tells apart what the key tells apart. A NULL is no key:
rows that have none may share their attributes with any other. -/
structure Database.IsStar (db : Database V) (s : Schema) (t : FactTable) : Prop where
  leads : ∀ {d own key}, t.Carries s d own key →
    ∀ row ∈ db t.name, db.LeadsToOne d.name ⟨own.column, key.column⟩ row
  present : ∀ {d own key}, t.Carries s d own key → ∀ f ∈ d.fields, f.countsByKey = true →
    ∀ row ∈ db d.name, row f.column ≠ none
  apart : ∀ {d own key}, t.Carries s d own key → ∀ f ∈ d.fields, f.countsByKey = true →
    ∀ row ∈ db d.name, ∀ row' ∈ db d.name, row key.column ≠ none → row' key.column ≠ none →
      row key.column ≠ row' key.column → row f.column ≠ row' f.column
  foreign : ∀ {d own key}, t.Carries s d own key → ∀ f ∈ d.fields, f.countsByKey = true →
    f.name ∉ t.fields.map (·.name)

namespace FactTable

variable {s : Schema} {o : Options} {t : FactTable} {r : Request} {db : Database V}

theorem leadsToOne_of_joins (built : t.Built) (star : db.IsStar s t) {table : TableName}
    {keys : JoinKeys} (joins : t.Joins s table keys) {row : Record V} (member : row ∈ db t.name) :
    db.LeadsToOne table keys row := by
  obtain ⟨name, d, exposed, rfl, held⟩ := joins
  obtain ⟨own, listed, named, -, rfl⟩ := (joinKeys?_eq_some_iff built).1 held
  exact star.leads ⟨exposed.table, listed, exposed.key, exposed.isKey, named⟩ row member

/-- What an alias means for a row that leads to a row of the dimension that exposes it. -/
theorem extend_of_follow (plain : ∀ f ∈ t.fields, f.calculation = none) {name : Alias}
    {d : DimensionLookup} {keys : JoinKeys} {row other : Record V}
    (absent : t.field? name = none) (looked : s.lookupDimension name = some d)
    (held : t.joinKeys? d = some keys) (followed : db.follow d.table.name keys row = some other) :
    t.extend s db row name = other d.field.column := by
  rw [joinKeys?, plainField?_of_plain plain, Option.map_eq_some_iff] at held
  obtain ⟨own, found, rfl⟩ := held
  rw [extend, absent, looked]
  simp only [Option.bind_some, found, followed]

theorem extend_of_field? {name : Alias} {f : FactField} (found : t.field? name = some f)
    (row : Record V) : t.extend s db row name = row f.column := by
  rw [extend, found]

/-- A row in scope with the dimension rows that a list of joins leads to. -/
structure InScope (db : Database V) (t : FactTable) (joins : List (TableName × JoinKeys))
    (scope : Scope V) (row : Record V) : Prop where
  own : scope t.name.shortName = row
  followed : ∀ p ∈ joins, db.follow p.1 p.2 row = some (scope (TableName.shortName p.1))

/-- Where a field comes from, the cell is the one that its alias means. -/
theorem value_expr (plain : ∀ f ∈ t.fields, f.calculation = none) {name : Alias}
    {source : FieldSource} (found : t.locate? s name = some source)
    {joins : List (TableName × JoinKeys)} (listed : ∀ p, source.join? = some p → p ∈ joins)
    {scope : Scope V} {row : Record V} (inScope : t.InScope db joins scope row) :
    (source.expr t.name.shortName).value scope = t.extend s db row name := by
  cases source with
  | native f =>
      have own := locate?_eq_native_iff.1 found
      rw [plainField?_of_plain plain] at own
      rw [extend_of_field? own, FieldSource.expr, Expr.value_ofTable, inScope.own]
  | joined d keys =>
      obtain ⟨absent, looked, held⟩ := locate?_eq_joined_iff.1 found
      rw [plainField?_of_plain plain] at absent
      have followed := inScope.followed (d.table.name, keys) (listed _ rfl)
      rw [extend_of_follow plain absent looked held followed]
      rfl

/-- Without stored calculations every aggregate item is answered by aggregating. -/
theorem item_of_answer? (plain : ∀ f ∈ t.fields, f.calculation = none) {e : Entry}
    {item : AggregateItem} {record : AggregateRecord}
    (found : t.answer? s o e item = some record) (fact : String) :
    record.item fact = .ofAggregate (item, record.operand fact) := by
  rw [answer?_eq, Option.or_eq_some_iff, Option.or_eq_some_iff] at found
  rcases found with (substituted | ⟨-, direct⟩) | ⟨-, joined⟩
  · obtain ⟨d, -, -, counted⟩ := substituted?_eq_some_iff.1 substituted
    obtain ⟨f, -, rfl⟩ := direct?_of_plain plain counted
    rfl
  · obtain ⟨f, -, rfl⟩ := direct?_of_plain plain direct
    rfl
  · obtain ⟨d, keys, -, -, rfl⟩ := joined?_eq_some_iff.1 joined
    rfl

/-- Where an attribute may be counted by the key, the rows of the fact table have both, and the
one tells them apart as the other does. -/
theorem result_key (sound : s.Sound) (built : t.Built)
    (plain : ∀ f ∈ t.fields, f.calculation = none) (star : db.IsStar s t) {item : AggregateItem}
    {d : DimensionLookup} (looked : s.lookupDimension item.field = some d)
    (allowed : d.allowsSubstitution o item.calculation = true) {own : FactField}
    (held : t.field? d.serviceKey.name = some own) {group : Multiset (Record V)}
    (within : group ≤ (db t.name : Multiset (Record V))) :
    item.calculation.result (group.map fun row => row own.column) =
      item.calculation.result (group.map fun row => t.extend s db row item.field) := by
  have exposed := sound.lookupDimension_eq_some_iff.1 looked
  obtain ⟨-, counts⟩ : _ ∧ item.calculation.isCount = true := Bool.and_eq_true_iff.1 allowed
  have byKey : d.field.countsByKey = true := by
    rw [DimensionLookup.allowsSubstitution, Bool.and_eq_true, Bool.and_eq_true] at allowed
    exact allowed.1.2
  obtain ⟨listed, named⟩ := built.field?_eq_some_iff.1 held
  have carries : t.Carries s d.table own d.serviceKey :=
    ⟨exposed.table, listed, exposed.key, exposed.isKey, named⟩
  have absent : t.field? item.field = none := by
    rw [field?_eq_none_iff, ← exposed.named]
    exact star.foreign carries d.field exposed.field byKey
  have keys : t.joinKeys? d = some ⟨own.column, d.serviceKey.column⟩ := by
    rw [joinKeys?, plainField?_of_plain plain, held]
    rfl
  -- Each row has a key, and the attribute of the one row that the key leads to.
  have follows : ∀ row ∈ group, ∃ other ∈ db d.table.name,
      db.follow d.table.name ⟨own.column, d.serviceKey.column⟩ row = some other ∧
      row own.column ≠ none ∧ other d.serviceKey.column = row own.column ∧
      t.extend s db row item.field = other d.field.column := by
    intro row member
    obtain ⟨v, other, key, followed, only⟩ :=
      (star.leads carries row (Multiset.mem_of_le within member)).exists_follow
    have found : other ∈ (db d.table.name).filter fun o => o d.serviceKey.column == some v := by
      rw [only]
      exact List.mem_singleton_self other
    obtain ⟨stored, matched⟩ := List.mem_filter.1 found
    exact ⟨other, stored, followed, key ▸ Option.some_ne_none v,
      (beq_iff_eq.1 matched).trans key.symm, extend_of_follow plain absent looked keys followed⟩
  refine Calculation.result_congr_of_isCount counts ?_ ?_ ?_
  · intro row member
    obtain ⟨-, -, -, key, -⟩ := follows row member
    exact key
  · intro row member
    obtain ⟨other, stored, -, -, -, same⟩ := follows row member
    rw [same]
    exact star.present carries d.field exposed.field byKey other stored
  · intro row member row' member'
    obtain ⟨other, stored, followed, present, key, same⟩ := follows row member
    obtain ⟨other', stored', followed', present', key', same'⟩ := follows row' member'
    rw [same, same']
    constructor
    · intro agree
      have one : db.follow d.table.name ⟨own.column, d.serviceKey.column⟩ row =
          db.follow d.table.name ⟨own.column, d.serviceKey.column⟩ row' := by
        simp only [Database.follow, agree]
      rw [followed, followed'] at one
      rw [Option.some.inj one]
    · intro agree
      by_contra differ
      refine star.apart carries d.field exposed.field byKey other stored other' stored' ?_ ?_ ?_
        agree
      · rwa [key]
      · rwa [key']
      · rwa [key, key']

/-- What is aggregated for an item has the result that the item asks for. -/
theorem result_operand (sound : s.Sound) (built : t.Built)
    (plain : ∀ f ∈ t.fields, f.calculation = none) (star : db.IsStar s t) {e : Entry}
    {item : AggregateItem} {record : AggregateRecord}
    (found : t.answer? s o e item = some record) {joins : List (TableName × JoinKeys)}
    (listed : ∀ p, record.join? = some p → p ∈ joins) {scope : Record V → Scope V}
    (inScope : ∀ row ∈ db t.name, t.InScope db joins (scope row) row)
    {group : Multiset (Record V)} (within : group ≤ (db t.name : Multiset (Record V))) :
    item.calculation.result
        (group.map fun row => (record.operand t.name.shortName).value (scope row)) =
      item.calculation.result (group.map fun row => t.extend s db row item.field) := by
  have member : ∀ row ∈ group, row ∈ db t.name := fun row => Multiset.mem_of_le within
  -- A column of the fact table is read off the row itself.
  have own : ∀ f : FactField,
      (group.map fun row => (Expr.ofTable t.name.shortName f.column).value (scope row)) =
        group.map fun row => row f.column := by
    intro f
    apply Multiset.map_congr rfl
    intro row listed
    rw [Expr.value_ofTable, (inScope row (member row listed)).own]
  rw [answer?_eq, Option.or_eq_some_iff, Option.or_eq_some_iff] at found
  rcases found with (substituted | ⟨-, direct⟩) | ⟨undirect, joined⟩
  · obtain ⟨d, looked, allowed, counted⟩ := substituted?_eq_some_iff.1 substituted
    obtain ⟨f, held, rfl⟩ := direct?_of_plain plain counted
    rw [AggregateRecord.operand, own]
    exact result_key sound built plain star looked allowed held within
  · obtain ⟨f, held, rfl⟩ := direct?_of_plain plain direct
    rw [AggregateRecord.operand, own]
    refine congrArg _ (Multiset.map_congr rfl fun row _ => ?_)
    rw [extend_of_field? held]
  · obtain ⟨d, keys, looked, held, rfl⟩ := joined?_eq_some_iff.1 joined
    have absent := direct?_eq_none_of_plain plain (Option.or_eq_none_iff.1 undirect).2
    refine congrArg _ (Multiset.map_congr rfl fun row grouped => ?_)
    have followed := (inScope row (member row grouped)).followed _ (listed _ rfl)
    rw [extend_of_follow plain absent looked held followed]
    rfl

end FactTable

namespace Schema

variable {s : Schema} {t : FactTable} {r : Request} {o : Options} {e : Entry}

/-- The planned query of a table without stored calculations has the answer that the request
asks for, whatever the rows of a star are. -/
theorem answer_toQuery (built : s.Built) (shortNames : s.ShortNamesDistinct)
    (member : t ∈ s.facts.values) (plain : ∀ f ∈ t.fields, f.calculation = none)
    (survives : (s.plan r o).live.get? t.name = some e)
    (distinct :
      (r.select ++ r.aggregate.map fun i => i.field.withCalculation i.calculation).Nodup)
    (literal : Literals V) {db : Database V} (star : db.IsStar s t) :
    ((e.toQuery t.name).answer literal db).map byName =
      (r.answer literal ((db t.name : Multiset (Record V)).map (t.extend s db))).map byName := by
  have sound := built.sound
  have table := sound.fact member
  obtain ⟨serves, rfl⟩ := (plan_live_eq_some_iff sound member).1 survives
  obtain ⟨scope, joined, own, followed⟩ := FactTable.exists_scope sound shortNames member literal
    fun _ _ joins _ listed => FactTable.leadsToOne_of_joins table star joins listed
  have inScope : ∀ row ∈ db t.name, t.InScope db (t.course s o r).joins (scope row) row :=
    fun row listed => ⟨own row listed, fun p joins => followed p joins row listed⟩
  have selected : (t.course s o r).selects.map (·.1) = r.select := map_fst_answered serves.select
  have filtered : (t.course s o r).filters.map (·.1) = r.filter := map_fst_answered serves.filter
  have recorded : (t.course s o r).records.map (·.1) = r.aggregate :=
    map_fst_answered serves.aggregate
  refine ((t.course s o r).realizes t selected filtered recorded ?_ ?_ joined ?_ ?_ ?_).answer_eq
  · intro p listed
    exact FactTable.item_of_answer? plain (mem_answered_iff.1 listed).2 _
  · intro cell
    apply byName_eq_of_perm (((t.course s o r).toQuery_select t t.name).map _)
    rw [List.map_map]
    apply (FactTable.outputNames_toQuery serves t.name).nodup_iff.2
    exact distinct.map (Option.some_injective String)
  · intro p listed row stored
    refine FactTable.value_expr plain (mem_answered_iff.1 listed).2 (fun join joins => ?_)
      (inScope row stored)
    exact List.mem_append_left _ (List.mem_append_left _ (List.mem_filterMap.2 ⟨p, listed, joins⟩))
  · intro p listed row stored
    refine FactTable.value_expr plain (mem_answered_iff.1 listed).2 (fun join joins => ?_)
      (inScope row stored)
    exact List.mem_append_right _ (List.mem_filterMap.2 ⟨p, listed, joins⟩)
  · intro p listed group within
    refine FactTable.result_operand sound table plain star (mem_answered_iff.1 listed).2
      (fun join joins => ?_) inScope within
    exact List.mem_append_left _ (List.mem_append_right _ (List.mem_filterMap.2 ⟨p, listed, joins⟩))

end Schema

/-! The rows of the star of game sales are the contents of a star. -/

namespace Games

theorem columns_of_carries {d : DimensionTable} {own : FactField} {key : DimensionField}
    (carries : sales.Carries star d own key) :
    d = game ∧ own.column = "fk_game" ∧ key.column = "sk_game" := by
  obtain ⟨table, ofTable, ofDimension, isKey, named⟩ := carries
  obtain rfl : d = game := List.mem_singleton.1 table
  have only : ∀ own ∈ sales.fields, ∀ key ∈ game.fields, key.isKey = true → own.name = key.name →
      own.column = "fk_game" ∧ key.column = "sk_game" := by decide
  exact ⟨rfl, only own ofTable key ofDimension isKey named⟩

theorem content_isStar : content.IsStar star sales where
  leads := by
    intro d own key carried
    obtain ⟨rfl, ownColumn, keyColumn⟩ := columns_of_carries carried
    rw [ownColumn, keyColumn]
    intro row member
    simp only [content, sales, List.mem_cons, List.not_mem_nil, or_false] at member
    rcases member with rfl | rfl | rfl | rfl
    · exact ⟨1, rfl, _, rfl⟩
    · exact ⟨2, rfl, _, rfl⟩
    · exact ⟨1, rfl, _, rfl⟩
    · exact ⟨3, rfl, _, rfl⟩
  present := by
    intro d own key carried
    obtain ⟨rfl, -, -⟩ := columns_of_carries carried
    decide +kernel
  apart := by
    intro d own key carried
    obtain ⟨rfl, -, keyColumn⟩ := columns_of_carries carried
    rw [keyColumn]
    decide +kernel
  foreign := by
    intro d own key carried
    obtain ⟨rfl, -, -⟩ := columns_of_carries carried
    decide
end Games

theorem Schema.answer_toQuery_games :
    let r : Request := ⟨["genre"], [⟨"game", .countDistinct⟩, ⟨"amount", .sum⟩],
      [⟨"year", .ge, "2020"⟩]⟩
    ∃ e, (Games.star.plan r .standard).live.get? Games.sales.name = some e ∧
      ((e.toQuery Games.sales.name).answer Games.literal Games.content).map byName =
        Multiset.map byName {[(some "genre", some 7), (some "game__count_distinct", some 2),
          (some "amount__sum", some 42)]} := by
  intro r
  have live : (Games.star.plan r .standard).live.contains Games.sales.name = true := by decide
  obtain ⟨e, survives⟩ := Keyed.contains_iff.1 live
  refine ⟨e, survives, ?_⟩
  rw [Schema.answer_toQuery Games.star_built (by decide) (by decide) (by decide) survives
    (by decide) Games.literal Games.content_isStar]
  exact congrArg (Multiset.map byName) (by decide +kernel)

end StarPlan
