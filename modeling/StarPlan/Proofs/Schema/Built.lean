import StarPlan.Proofs.Keyed
import StarPlan.Proofs.Run
import StarPlan.Schema.Basic

/-!
# What holds of every schema that can be built

Tables grow by accepted fields and schemas by accepted finished tables; a refused call leaves
both as they are. `FactTable.Built`, `DimensionTable.Built` and `Schema.Built` say that a value
came about in this way, and `Schema.Built.sound` collects what the checks on the way ensure.

The gain is `lookupDimension_eq_some_iff`: the look-up of an alias finds exactly the dimension
that exposes it, with its only field of that alias and its only key. Statements about planning
are therefore free to speak of membership instead of searches.
-/

namespace StarPlan

/-- Under distinct names, searching for a name finds the element that bears it. -/
private theorem find?_name_eq_some_iff {α : Type} {nameOf : α → String} {l : List α}
    (distinct : (l.map nameOf).Nodup) {name : String} {a : α} :
    (l.find? fun b => nameOf b == name) = some a ↔ a ∈ l ∧ nameOf a = name := by
  constructor
  · intro h
    exact ⟨List.mem_of_find?_eq_some h, by simpa using List.find?_some h⟩
  · rintro ⟨member, rfl⟩
    induction l with
    | nil => cases member
    | cons b rest ih =>
        obtain ⟨fresh, distinct⟩ := List.nodup_cons.1 distinct
        rcases List.mem_cons.1 member with rfl | member
        · simp
        · have differs : nameOf b ≠ nameOf a := fun same =>
            fresh (same ▸ List.mem_map_of_mem member)
          simpa [differs] using ih distinct member

namespace FactTable

/-- Fact tables that come about by accepted calls. -/
inductive Built : FactTable → Prop where
  | new (name : TableName) : Built (.new name)
  | asBase {t : FactTable} (built : t.Built) : Built t.asBase
  | addField {t t' : FactTable} {f : FactField} (built : t.Built)
      (accepted : t.addField f = .ok t') : Built t'

theorem Built.addFields {t t' : FactTable} (h : t.Built) (fields : List FactField)
    (accepted : fields.foldlM FactTable.addField t = .ok t') : t'.Built :=
  foldlM_keeps Built .addField fields h accepted

variable {t : FactTable} {f : FactField} {name : Alias}

theorem field?_eq_none_of_fault? (h : t.fault? f = none) : t.field? f.name = none := by
  unfold fault? at h
  split at h
  · cases h
  · next free => simpa using free

theorem field?_eq_none_iff : t.field? name = none ↔ name ∉ t.fields.map (·.name) := by
  simp [field?]

theorem Built.nodup_names (h : t.Built) : (t.fields.map (·.name)).Nodup := by
  induction h with
  | new => exact .nil
  | asBase _ ih => exact ih
  | addField _ accepted ih =>
      obtain ⟨suits, rfl⟩ := addField_eq_ok_iff.1 accepted
      have fresh := field?_eq_none_iff.1 (field?_eq_none_of_fault? suits)
      rw [List.map_append, List.map_singleton]
      exact List.nodup_append.2 ⟨ih, by simp, by grind⟩

theorem Built.field?_eq_some_iff (h : t.Built) :
    t.field? name = some f ↔ f ∈ t.fields ∧ f.name = name :=
  find?_name_eq_some_iff h.nodup_names

theorem Built.plainField?_eq_some_iff (h : t.Built) :
    t.plainField? name = some f ↔ f ∈ t.fields ∧ f.name = name ∧ f.calculation = none := by
  rw [plainField?, Option.filter_eq_some_iff, h.field?_eq_some_iff]
  simp [FactField.isPlain, and_assoc]

theorem mem_plainAliases_iff :
    name ∈ t.plainAliases ↔ ∃ f ∈ t.fields, f.name = name ∧ f.calculation = none := by
  simp only [plainAliases, FactField.isPlain, List.mem_map, List.mem_filter,
    Option.isNone_iff_eq_none]
  constructor
  · rintro ⟨f, ⟨member, plain⟩, named⟩
    exact ⟨f, member, named, plain⟩
  · rintro ⟨f, member, named, plain⟩
    exact ⟨f, ⟨member, plain⟩, named⟩

theorem Built.isSome_plainField?_iff (h : t.Built) :
    (t.plainField? name).isSome = true ↔ name ∈ t.plainAliases := by
  simp [Option.isSome_iff_exists, h.plainField?_eq_some_iff, mem_plainAliases_iff]

end FactTable

namespace DimensionTable

/-- Dimension tables that come about by accepted calls. -/
inductive Built : DimensionTable → Prop where
  | new (name : TableName) : Built (.new name)
  | addField {t t' : DimensionTable} {f : DimensionField} (built : t.Built)
      (accepted : t.addField f = .ok t') : Built t'

theorem Built.addFields {t t' : DimensionTable} (h : t.Built) (fields : List DimensionField)
    (accepted : fields.foldlM DimensionTable.addField t = .ok t') : t'.Built :=
  foldlM_keeps Built .addField fields h accepted

variable {t : DimensionTable} {f : DimensionField} {name : Alias}

theorem field?_eq_none_of_fault? (h : t.fault? f = none) : t.field? f.name = none := by
  unfold fault? at h
  split at h
  · cases h
  · split at h
    · cases h
    · next free => simpa using free

theorem serviceKey?_eq_none_of_fault? (h : t.fault? f = none) (key : f.isKey = true) :
    t.serviceKey? = none := by
  unfold fault? at h
  split at h
  · cases h
  · split at h
    · cases h
    · obtain ⟨-, later⟩ := Option.or_eq_none_iff.1 h
      split at later
      · cases later
      · split at later
        · cases later
        · next free => simpa [key] using free

theorem field?_eq_none_iff : t.field? name = none ↔ name ∉ t.fields.map (·.name) := by
  simp [field?]

theorem Built.nodup_names (h : t.Built) : (t.fields.map (·.name)).Nodup := by
  induction h with
  | new => exact .nil
  | addField _ accepted ih =>
      obtain ⟨suits, rfl⟩ := addField_eq_ok_iff.1 accepted
      have fresh := field?_eq_none_iff.1 (field?_eq_none_of_fault? suits)
      rw [List.map_append, List.map_singleton]
      exact List.nodup_append.2 ⟨ih, by simp, by grind⟩

theorem Built.key_unique (h : t.Built) {f g : DimensionField} (hf : f ∈ t.fields)
    (hg : g ∈ t.fields) (keyF : f.isKey = true) (keyG : g.isKey = true) : f = g := by
  induction h with
  | new => cases hf
  | @addField t _ new _ accepted ih =>
      obtain ⟨suits, rfl⟩ := addField_eq_ok_iff.1 accepted
      -- A new key is refused beside an old one.
      have alone : new.isKey = true → ∀ old ∈ t.fields, old.isKey = false := by
        intro key old member
        have none := serviceKey?_eq_none_of_fault? suits key
        simpa using List.find?_eq_none.1 none old member
      rcases List.mem_append.1 hf with oldF | newF <;> rcases List.mem_append.1 hg with oldG | newG
      · exact ih oldF oldG
      · rw [List.mem_singleton] at newG
        subst newG
        exact absurd keyF (by simp [alone keyG f oldF])
      · rw [List.mem_singleton] at newF
        subst newF
        exact absurd keyG (by simp [alone keyF g oldG])
      · rw [List.mem_singleton] at newF newG
        rw [newF, newG]

theorem Built.field?_eq_some_iff (h : t.Built) :
    t.field? name = some f ↔ f ∈ t.fields ∧ f.name = name :=
  find?_name_eq_some_iff h.nodup_names

theorem Built.serviceKey?_eq_some_iff (h : t.Built) :
    t.serviceKey? = some f ↔ f ∈ t.fields ∧ f.isKey = true := by
  constructor
  · intro found
    exact ⟨List.mem_of_find?_eq_some found, List.find?_some found⟩
  · rintro ⟨member, key⟩
    cases found : t.serviceKey? with
    | none => exact absurd key (List.find?_eq_none.1 found f member)
    | some g =>
        have same := h.key_unique (List.mem_of_find?_eq_some found) member
          (List.find?_some found) key
        rw [same]

theorem Built.lookup?_eq_some_iff (h : t.Built) {d : DimensionLookup} :
    t.lookup? name = some d ↔
      d.table = t ∧ d.field ∈ t.fields ∧ d.field.name = name ∧
        d.serviceKey ∈ t.fields ∧ d.serviceKey.isKey = true := by
  obtain ⟨table, field, key⟩ := d
  simp only [lookup?, Option.bind_eq_bind, Option.bind_eq_some_iff, h.field?_eq_some_iff,
    h.serviceKey?_eq_some_iff, Option.pure_def, Option.some.injEq, DimensionLookup.mk.injEq]
  constructor
  · rintro ⟨field', ⟨member, named⟩, key', ⟨keyMember, isKey⟩, rfl, rfl, rfl⟩
    exact ⟨rfl, member, named, keyMember, isKey⟩
  · rintro ⟨rfl, member, named, keyMember, isKey⟩
    exact ⟨field, ⟨member, named⟩, key, ⟨keyMember, isKey⟩, rfl, rfl, rfl⟩

end DimensionTable

namespace Schema

/-- Schemas that come about by accepted calls on tables that do. -/
inductive Built : Schema → Prop where
  | empty : Built .empty
  | addFact {s s' : Schema} {t : FactTable} (built : s.Built) (table : t.Built)
      (accepted : s.addFact t = .ok s') : Built s'
  | addDimension {s s' : Schema} {t : DimensionTable} (built : s.Built) (table : t.Built)
      (accepted : s.addDimension t = .ok s') : Built s'

/-- A dimension of the schema offers a field under an alias and can be joined by a key. -/
structure Exposes (s : Schema) (name : Alias) (d : DimensionLookup) : Prop where
  table : d.table ∈ s.dimensions.values
  field : d.field ∈ d.table.fields
  named : d.field.name = name
  key : d.serviceKey ∈ d.table.fields
  isKey : d.serviceKey.isKey = true

/-- What the checks on added tables ensure. -/
structure Sound (s : Schema) : Prop where
  factName : ∀ {name t}, s.facts.get? name = some t → t.name = name
  dimensionName : ∀ {name d}, s.dimensions.get? name = some d → d.name = name
  apart : ∀ {name}, s.facts.contains name = true → s.dimensions.contains name = false
  fact : ∀ {t}, t ∈ s.facts.values → t.Built
  dimension : ∀ {d}, d ∈ s.dimensions.values → d.Built
  keyed : ∀ {d}, d ∈ s.dimensions.values → ∃ key ∈ d.fields, key.isKey = true
  /-- An alias leads to one dimension. -/
  exposed : ∀ {d d'}, d ∈ s.dimensions.values → d' ∈ s.dimensions.values →
    ∀ {f f'}, f ∈ d.fields → f' ∈ d'.fields → f.name = f'.name → d = d'

variable {s s' : Schema}

theorem isTaken_eq_false_iff {name : TableName} :
    s.isTaken name = false ↔
      s.facts.contains name = false ∧ s.dimensions.contains name = false := by
  simp [isTaken]

theorem isTaken_of_factFault? {t : FactTable} (h : s.factFault? t = none) :
    s.isTaken t.name = false := by
  unfold factFault? at h
  split at h
  · cases h
  · next free => simpa using free

theorem factFault?_eq_none_iff {t : FactTable} :
    s.factFault? t = none ↔
      s.isTaken t.name = false ∧ (t.isBase = true → ∀ u ∈ s.facts.values, u.isBase = false) := by
  unfold factFault? base?
  cases s.isTaken t.name <;> cases t.isBase <;> simp

theorem dimensionFault?_eq_none_iff {t : DimensionTable} :
    s.dimensionFault? t = none ↔
      s.isTaken t.name = false ∧ t.serviceKey?.isSome = true ∧ s.exposedFault? t = none := by
  unfold dimensionFault?
  split
  · next taken => simp [taken]
  · next free =>
    cases t.serviceKey? <;> simp [free]

theorem exposedFault?_eq_none_iff {t : DimensionTable} :
    s.exposedFault? t = none ↔ ∀ f ∈ t.fields, s.lookupDimension f.name = none := by
  simp [exposedFault?]

namespace Sound

variable {name : Alias} {d : DimensionLookup}

theorem lookupDimension_eq_some_iff (h : s.Sound) :
    s.lookupDimension name = some d ↔ s.Exposes name d := by
  have exposes : ∀ {d}, s.lookupDimension name = some d → s.Exposes name d := by
    intro d found
    obtain ⟨t, member, offered⟩ := List.exists_of_findSome?_eq_some found
    obtain ⟨rfl, field, named, key, isKey⟩ :=
      (h.dimension member).lookup?_eq_some_iff.1 offered
    exact ⟨member, field, named, key, isKey⟩
  refine ⟨exposes, fun wanted => ?_⟩
  have built := h.dimension wanted.table
  cases found : s.lookupDimension name with
  | none =>
      have absent : d.table.lookup? name = none :=
        List.findSome?_eq_none_iff.1 found d.table wanted.table
      rw [built.lookup?_eq_some_iff.2
        ⟨rfl, wanted.field, wanted.named, wanted.key, wanted.isKey⟩] at absent
      cases absent
  | some e =>
      -- Whatever was found first is the same dimension, hence the same field and key.
      have other := exposes found
      have sameTable : e.table = d.table := h.exposed other.table wanted.table other.field
        wanted.field (other.named.trans wanted.named.symm)
      have offered := built.lookup?_eq_some_iff.2
        ⟨rfl, wanted.field, wanted.named, wanted.key, wanted.isKey⟩
      have offered' := built.lookup?_eq_some_iff.2
        ⟨sameTable, sameTable ▸ other.field, other.named, sameTable ▸ other.key, other.isKey⟩
      exact offered'.symm.trans offered

theorem lookupDimension_eq_none_iff (h : s.Sound) :
    s.lookupDimension name = none ↔
      ∀ t ∈ s.dimensions.values, ∀ f ∈ t.fields, f.name ≠ name := by
  constructor
  · intro absent t member f field named
    obtain ⟨key, keyMember, isKey⟩ := h.keyed member
    have found : s.lookupDimension name = some ⟨t, f, key⟩ :=
      h.lookupDimension_eq_some_iff.2 ⟨member, field, named, keyMember, isKey⟩
    rw [absent] at found
    cases found
  · intro absent
    cases found : s.lookupDimension name with
    | none => rfl
    | some d =>
        have exposed := h.lookupDimension_eq_some_iff.1 found
        exact absurd exposed.named (absent d.table exposed.table d.field exposed.field)

theorem empty : Sound .empty where
  factName found := by cases found
  dimensionName found := by cases found
  apart taken := by cases taken
  fact member := by cases member
  dimension member := by cases member
  keyed member := by cases member
  exposed member := by cases member

theorem addFact (h : s.Sound) {t : FactTable} (built : t.Built)
    (accepted : s.addFact t = .ok s') : s'.Sound := by
  obtain ⟨suits, rfl⟩ := addFact_eq_ok_iff.1 accepted
  have free := isTaken_eq_false_iff.1 (isTaken_of_factFault? suits)
  refine { h with factName := ?_, apart := ?_, fact := ?_ }
  · intro name u found
    rw [Keyed.get?_insert] at found
    split at found
    · next same => rw [← Option.some.inj found, same]
    · exact h.factName found
  · intro name taken
    rw [Keyed.contains_insert, Bool.or_eq_true, beq_iff_eq] at taken
    rcases taken with rfl | taken
    · exact free.2
    · exact h.apart taken
  · intro u member
    rcases Keyed.eq_or_mem_of_mem_values_insert member with rfl | member
    · exact built
    · exact h.fact member

theorem addDimension (h : s.Sound) {t : DimensionTable} (built : t.Built)
    (accepted : s.addDimension t = .ok s') : s'.Sound := by
  obtain ⟨suits, rfl⟩ := addDimension_eq_ok_iff.1 accepted
  obtain ⟨notTaken, hasKey, unexposed⟩ := dimensionFault?_eq_none_iff.1 suits
  have free := isTaken_eq_false_iff.1 notTaken
  have fresh := exposedFault?_eq_none_iff.1 unexposed
  -- The aliases of the new table are exposed by none of the old ones.
  have apart : ∀ {d}, d ∈ s.dimensions.values → ∀ {f f'}, f ∈ d.fields → f' ∈ t.fields →
      f.name ≠ f'.name := fun member _ _ field field' =>
    h.lookupDimension_eq_none_iff.1 (fresh _ field') _ member _ field
  refine { h with dimensionName := ?_, apart := ?_, dimension := ?_, keyed := ?_, exposed := ?_ }
  · intro name u found
    rw [Keyed.get?_insert] at found
    split at found
    · next same => rw [← Option.some.inj found, same]
    · exact h.dimensionName found
  · intro name taken
    have differs : name ≠ t.name := fun same => by simp [same, free.1] at taken
    rw [Keyed.contains_insert, h.apart taken]
    simp [differs]
  · intro u member
    rcases Keyed.eq_or_mem_of_mem_values_insert member with rfl | member
    · exact built
    · exact h.dimension member
  · intro u member
    rcases Keyed.eq_or_mem_of_mem_values_insert member with rfl | member
    · obtain ⟨key, found⟩ := Option.isSome_iff_exists.1 hasKey
      exact ⟨key, built.serviceKey?_eq_some_iff.1 found⟩
    · exact h.keyed member
  · intro d d' member member' f f' field field' same
    rcases Keyed.eq_or_mem_of_mem_values_insert member with rfl | old <;>
      rcases Keyed.eq_or_mem_of_mem_values_insert member' with rfl | old'
    · rfl
    · exact absurd same.symm (apart old' field' field)
    · exact absurd same (apart old field field')
    · exact h.exposed old old' field field' same

end Sound

theorem Built.sound (h : s.Built) : s.Sound := by
  induction h with
  | empty => exact .empty
  | addFact _ table accepted ih => exact ih.addFact table accepted
  | addDimension _ table accepted ih => exact ih.addDimension table accepted

namespace Sound

variable {t : FactTable}

theorem get?_fact (h : s.Sound) (member : t ∈ s.facts.values) :
    s.facts.get? t.name = some t := by
  obtain ⟨name, found⟩ := Keyed.mem_values_iff.1 member
  rwa [h.factName found]

theorem get?_dimension (h : s.Sound) {d : DimensionTable} (member : d ∈ s.dimensions.values) :
    s.dimensions.get? d.name = some d := by
  obtain ⟨name, found⟩ := Keyed.mem_values_iff.1 member
  rwa [h.dimensionName found]

theorem dimension_eq_of_name (h : s.Sound) {d d' : DimensionTable}
    (member : d ∈ s.dimensions.values) (member' : d' ∈ s.dimensions.values)
    (same : d.name = d'.name) : d = d' := by
  have found := h.get?_dimension member
  rw [same, h.get?_dimension member'] at found
  exact (Option.some.inj found).symm

end Sound

end Schema

/-! A star of game sales: one dimension, the raw table, and a rollup of it by year and store. -/

namespace Games

def game : DimensionTable where
  name := "shop.dim_game"
  fields :=
    [.serviceKey "sk_game" "game_key",
      { DimensionField.named "title" "game" "Game" with countsByKey := true },
      .named "genre_name" "genre" "Genre"]

def sales : FactTable where
  name := "shop.sales"
  isBase := true
  fields :=
    [.serviceKey "fk_game" "game_key", .named .dimension "sold_year" "year" "Year",
      .named .dimension "store_code" "store" "Store", .named .value "amount_eur" "amount" "Amount"]

def byYear : FactTable where
  name := "shop.sales_by_year"
  isBase := false
  fields :=
    [.named .dimension "y" "year" "Year", .named .dimension "s" "store" "Store",
      .calculated "total" "amount" .sum (some .sum)]

def star : Schema where
  facts := ⟨[(sales.name, sales), (byYear.name, byYear)], by decide⟩
  dimensions := ⟨[(game.name, game)], by decide⟩

theorem game_built : game.Built := (DimensionTable.Built.new game.name).addFields game.fields rfl

theorem sales_built : sales.Built :=
  (FactTable.Built.new sales.name).asBase.addFields sales.fields rfl

theorem byYear_built : byYear.Built := (FactTable.Built.new byYear.name).addFields byYear.fields rfl

theorem star_built : star.Built := by
  refine .addFact ?_ byYear_built (s := { star with facts := .insert .empty sales.name sales }) rfl
  refine .addFact ?_ sales_built (s := { star with facts := .empty }) rfl
  exact .addDimension .empty game_built rfl

end Games

end StarPlan
