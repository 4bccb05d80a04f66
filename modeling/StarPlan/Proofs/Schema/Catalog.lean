import StarPlan.Proofs.Schema.Consistent
import StarPlan.Schema.Catalog

/-!
# The catalog of fields is complete

The catalog is a map that is filled from two lists: the columns of the base table first, the
attributes of the dimensions after them, so that an attribute takes the place of a column of the
same alias. A column without a display name would be left out, and a second column of an alias
would replace the first. Neither happens in a schema that can be built: what users may see has a
display name, and neither the base table nor the dimensions expose an alias twice.

So the catalog is described by the tables alone, without the order in which it was filled
(`Schema.Built.get?_frontendFields`), and of the fact tables only the base table counts
(`Schema.frontendFields_exact`).
-/

namespace StarPlan

/-! Presented columns. -/

theorem FactField.info?_eq_some_iff {f : FactField} {info : FieldInfo} :
    f.info? = some info ↔
      f.kind ≠ .serviceKey ∧ f.calculation = none ∧
        ∃ front, f.frontName = some front ∧ ⟨front, f.kind, f.dataType⟩ = info := by
  unfold info? isKey isPlain
  cases f.kind <;> cases f.calculation <;> simp

theorem DimensionField.info?_eq_some_iff {f : DimensionField} {info : FieldInfo} :
    f.info? = some info ↔
      f.kind = .dimension ∧
        ∃ front, f.frontName = some front ∧ ⟨front, f.kind, f.dataType⟩ = info := by
  unfold info?
  cases f.kind <;> simp

section

variable {α : Type} {name : α → Alias} {info? : α → Option FieldInfo} {fields : List α}

theorem mem_infos_iff {entry : Alias × FieldInfo} :
    (entry ∈ fields.filterMap fun f => (info? f).map (name f, ·)) ↔
      ∃ f ∈ fields, name f = entry.1 ∧ info? f = some entry.2 := by
  simp only [List.mem_filterMap, Option.map_eq_some_iff]
  constructor
  · rintro ⟨f, listed, info, found, rfl⟩
    exact ⟨f, listed, rfl, found⟩
  · rintro ⟨f, listed, named, found⟩
    exact ⟨f, listed, entry.2, found, Prod.ext named rfl⟩

/-- Fields of distinct aliases are presented under distinct aliases. -/
theorem nodup_infos (distinct : (fields.map name).Nodup) :
    ((fields.filterMap fun f => (info? f).map (name f, ·)).map (·.1)).Nodup := by
  induction fields with
  | nil => exact .nil
  | cons f rest ih =>
      obtain ⟨fresh, distinct⟩ := List.nodup_cons.1 distinct
      cases found : info? f with
      | none =>
          rw [List.filterMap_cons_none (by rw [found]; rfl)]
          exact ih distinct
      | some info =>
          rw [List.filterMap_cons_some (by rw [found]; rfl), List.map_cons]
          refine List.nodup_cons.2 ⟨fun again => fresh ?_, ih distinct⟩
          obtain ⟨entry, presented, same⟩ := List.mem_map.1 again
          obtain ⟨g, listed, named, -⟩ := mem_infos_iff.1 presented
          exact List.mem_map.2 ⟨g, listed, named.trans same⟩

end

namespace Schema

/-- A column of the base table that is neither a key nor holds results of a calculation. -/
structure IsBaseColumn (s : Schema) (f : FactField) : Prop where
  base : ∃ t ∈ s.facts.values, t.isBase = true ∧ f ∈ t.fields
  notKey : f.kind ≠ .serviceKey
  plain : f.calculation = none

/-- An attribute of some dimension. -/
structure IsAttribute (s : Schema) (f : DimensionField) : Prop where
  table : ∃ t ∈ s.dimensions.values, f ∈ t.fields
  kind : f.kind = .dimension

variable {s : Schema} {name : Alias}

theorem Built.base?_eq_some_iff (h : s.Built) {t : FactTable} :
    s.base? = some t ↔ t ∈ s.facts.values ∧ t.isBase = true := by
  constructor
  · intro found
    exact ⟨List.mem_of_find?_eq_some found, List.find?_some found⟩
  · rintro ⟨member, base⟩
    cases found : s.base? with
    | none => exact absurd base (List.find?_eq_none.1 found t member)
    | some u =>
        have other : u.isBase = true := List.find?_some found
        rw [h.base_unique (List.mem_of_find?_eq_some found) member other base]

theorem dimensionInfos_eq (s : Schema) :
    s.dimensionInfos =
      (s.dimensions.values.flatMap (·.fields)).filterMap fun f => f.info?.map (f.name, ·) := by
  rw [dimensionInfos, List.filterMap_flatMap]

namespace Built

theorem nodup_baseInfos (h : s.Built) : (s.baseInfos.map (·.1)).Nodup := by
  refine nodup_infos ?_
  cases found : s.base? with
  | none => exact .nil
  | some t => exact (h.sound.fact (h.base?_eq_some_iff.1 found).1).nodup_names

theorem nodup_dimensionInfos (h : s.Built) : (s.dimensionInfos.map (·.1)).Nodup := by
  rw [dimensionInfos_eq]
  exact nodup_infos h.sound.nodup_aliases

theorem lookup_baseInfos (h : s.Built) {info : FieldInfo} :
    s.baseInfos.lookup name = some info ↔
      ∃ f, s.IsBaseColumn f ∧ f.name = name ∧
        ∃ front, f.frontName = some front ∧ ⟨front, f.kind, f.dataType⟩ = info := by
  have listed : s.baseInfos.lookup name = some info ↔ (name, info) ∈ s.baseInfos :=
    ⟨Keyed.mem_of_lookup, Keyed.lookup_of_mem h.nodup_baseInfos⟩
  have columns : ∀ f, f ∈ (s.base?.map (·.fields)).getD [] ↔
      ∃ t ∈ s.facts.values, t.isBase = true ∧ f ∈ t.fields := by
    intro f
    cases found : s.base? with
    | none =>
        refine iff_of_false List.not_mem_nil ?_
        rintro ⟨t, member, base, -⟩
        rw [h.base?_eq_some_iff.2 ⟨member, base⟩] at found
        cases found
    | some t =>
        obtain ⟨member, base⟩ := h.base?_eq_some_iff.1 found
        constructor
        · intro field
          exact ⟨t, member, base, field⟩
        · rintro ⟨u, member', base', field⟩
          exact h.base_unique member' member base' base ▸ field
  rw [listed, baseInfos, mem_infos_iff]
  simp only [columns, FactField.info?_eq_some_iff]
  constructor
  · rintro ⟨f, base, named, notKey, plain, front⟩
    exact ⟨f, ⟨base, notKey, plain⟩, named, front⟩
  · rintro ⟨f, ⟨base, notKey, plain⟩, named, front⟩
    exact ⟨f, base, named, notKey, plain, front⟩

theorem lookup_dimensionInfos (h : s.Built) {info : FieldInfo} :
    s.dimensionInfos.lookup name = some info ↔
      ∃ f, s.IsAttribute f ∧ f.name = name ∧
        ∃ front, f.frontName = some front ∧ ⟨front, f.kind, f.dataType⟩ = info := by
  have listed : s.dimensionInfos.lookup name = some info ↔ (name, info) ∈ s.dimensionInfos :=
    ⟨Keyed.mem_of_lookup, Keyed.lookup_of_mem h.nodup_dimensionInfos⟩
  rw [listed, dimensionInfos_eq, mem_infos_iff]
  simp only [List.mem_flatMap, DimensionField.info?_eq_some_iff]
  constructor
  · rintro ⟨f, table, named, kind, front⟩
    exact ⟨f, ⟨table, kind⟩, named, front⟩
  · rintro ⟨f, ⟨table, kind⟩, named, front⟩
    exact ⟨f, table, named, kind, front⟩

/-- An alias is presented as the dimensions present it, or else as the base table does. -/
theorem get?_frontendFields (h : s.Built) (name : Alias) :
    s.frontendFields.get? name = (s.dimensionInfos.lookup name).or (s.baseInfos.lookup name) := by
  rw [frontendFields, Keyed.ofList, List.foldl_append,
    Keyed.get?_foldl_insert h.nodup_dimensionInfos, Keyed.get?_foldl_insert h.nodup_baseInfos,
    Keyed.get?_empty, Option.or_none]

theorem frontName_of_isBaseColumn (h : s.Built) {f : FactField} (column : s.IsBaseColumn f) :
    ∃ front, f.frontName = some front := by
  obtain ⟨⟨t, member, -, field⟩, notKey, plain⟩ := column
  exact Option.isSome_iff_exists.1
    ((h.sound.fact member).frontName field (beq_eq_false_iff_ne.2 notKey) plain)

theorem frontName_of_isAttribute (h : s.Built) {f : DimensionField} (exposed : s.IsAttribute f) :
    ∃ front, f.frontName = some front := by
  obtain ⟨⟨t, member, field⟩, kind⟩ := exposed
  have notKey : f.isKey = false := by
    rw [DimensionField.isKey, kind]
    rfl
  exact Option.isSome_iff_exists.1 ((h.sound.dimension member).frontName field notKey)

theorem get?_of_isAttribute (h : s.Built) {f : DimensionField} (exposed : s.IsAttribute f)
    {front : String} (named : f.frontName = some front) :
    s.frontendFields.get? f.name = some ⟨front, f.kind, f.dataType⟩ := by
  rw [h.get?_frontendFields, h.lookup_dimensionInfos.2 ⟨f, exposed, rfl, front, named, rfl⟩,
    Option.some_or]

theorem get?_of_isBaseColumn (h : s.Built) {f : FactField} (column : s.IsBaseColumn f)
    (unexposed : ∀ g, s.IsAttribute g → g.name ≠ f.name) {front : String}
    (named : f.frontName = some front) :
    s.frontendFields.get? f.name = some ⟨front, f.kind, f.dataType⟩ := by
  have absent : s.dimensionInfos.lookup f.name = none := by
    cases found : s.dimensionInfos.lookup f.name with
    | none => rfl
    | some info =>
        obtain ⟨g, exposed, same, -⟩ := h.lookup_dimensionInfos.1 found
        exact absurd same (unexposed g exposed)
  rw [h.get?_frontendFields, absent, Option.none_or]
  exact h.lookup_baseInfos.2 ⟨f, column, rfl, front, named, rfl⟩

theorem contains_frontendFields (h : s.Built) (name : Alias) :
    s.frontendFields.contains name = true ↔
      (∃ f, s.IsBaseColumn f ∧ f.name = name) ∨ ∃ f, s.IsAttribute f ∧ f.name = name := by
  rw [Keyed.contains_iff]
  constructor
  · rintro ⟨info, found⟩
    rw [h.get?_frontendFields, Option.or_eq_some_iff] at found
    rcases found with found | ⟨-, found⟩
    · obtain ⟨f, exposed, named, -⟩ := h.lookup_dimensionInfos.1 found
      exact .inr ⟨f, exposed, named⟩
    · obtain ⟨f, column, named, -⟩ := h.lookup_baseInfos.1 found
      exact .inl ⟨f, column, named⟩
  · intro either
    -- What both expose is described as the attribute.
    by_cases exposed : ∃ f, s.IsAttribute f ∧ f.name = name
    · obtain ⟨f, exposed, rfl⟩ := exposed
      obtain ⟨front, named⟩ := h.frontName_of_isAttribute exposed
      exact ⟨_, h.get?_of_isAttribute exposed named⟩
    · obtain ⟨f, column, rfl⟩ := either.resolve_right exposed
      obtain ⟨front, named⟩ := h.frontName_of_isBaseColumn column
      have unexposed : ∀ g, s.IsAttribute g → g.name ≠ f.name := fun g other same =>
        exposed ⟨g, other, same⟩
      exact ⟨_, h.get?_of_isBaseColumn column unexposed named⟩

theorem frontendFields_congr {s' : Schema} (h : s.Built) (h' : s'.Built)
    (dimensions : s'.dimensions = s.dimensions)
    (base : ∀ t : FactTable, t.isBase = true → (t ∈ s'.facts.values ↔ t ∈ s.facts.values)) :
    s'.frontendFields = s.frontendFields := by
  have same : s'.base? = s.base? := by
    apply Option.ext
    intro t
    rw [h.base?_eq_some_iff, h'.base?_eq_some_iff]
    exact and_congr_left (base t)
  unfold frontendFields baseInfos dimensionInfos
  rw [same, dimensions]

end Built

/-- The catalog has exactly the plain columns of the base table that are no keys and the
attributes of the dimensions, none of which lacks a display name. An alias is described as the
attribute that exposes it, or as the column of the base table where no attribute does. Aliases
are listed once, in ascending order, and fact tables other than the base table do not count. -/
theorem frontendFields_exact (built : s.Built) :
    (∀ name, s.frontendFields.contains name = true ↔
      (∃ f, s.IsBaseColumn f ∧ f.name = name) ∨ ∃ f, s.IsAttribute f ∧ f.name = name) ∧
    (∀ f, s.IsAttribute f → ∃ front, f.frontName = some front ∧
      s.frontendFields.get? f.name = some ⟨front, f.kind, f.dataType⟩) ∧
    (∀ f, s.IsBaseColumn f → (∀ g, s.IsAttribute g → g.name ≠ f.name) →
      ∃ front, f.frontName = some front ∧
        s.frontendFields.get? f.name = some ⟨front, f.kind, f.dataType⟩) ∧
    s.frontendFields.names.Pairwise (· < ·) ∧
    ∀ s' : Schema, s'.Built → s'.dimensions = s.dimensions →
      (∀ t : FactTable, t.isBase = true → (t ∈ s'.facts.values ↔ t ∈ s.facts.values)) →
      s'.frontendFields = s.frontendFields := by
  refine ⟨built.contains_frontendFields, ?_, ?_, ?_, ?_⟩
  · intro f exposed
    obtain ⟨front, named⟩ := built.frontName_of_isAttribute exposed
    exact ⟨front, named, built.get?_of_isAttribute exposed named⟩
  · intro f column unexposed
    obtain ⟨front, named⟩ := built.frontName_of_isBaseColumn column
    exact ⟨front, named, built.get?_of_isBaseColumn column unexposed named⟩
  · exact List.Pairwise.map _ (fun _ _ lt => lt) s.frontendFields.ordered
  · intro s' built' dimensions base
    exact built.frontendFields_congr built' dimensions base

end Schema

namespace Games

/-- The stores, whose names the sales have in a column of the same alias. -/
def store : DimensionTable where
  name := "shop.dim_store"
  fields := [.serviceKey "sk_store" "store_key", .named "label" "store" "Shop"]

def starWithStores : Schema where
  facts := star.facts
  dimensions := ⟨[(game.name, game), (store.name, store)], by decide⟩

theorem starWithStores_built : starWithStores.Built :=
  .addDimension star_built ((DimensionTable.Built.new store.name).addFields store.fields rfl) rfl

end Games

namespace Schema

theorem frontendFields_exact_games :
    Games.starWithStores.Built ∧
      Games.starWithStores.frontendFields.names = ["amount", "game", "genre", "store", "year"] ∧
      Games.starWithStores.frontendFields.get? "store" = some ⟨"Shop", .dimension, none⟩ ∧
      Games.starWithStores.frontendFields.get? "amount" = some ⟨"Amount", .value, none⟩ := by
  have built := Games.starWithStores_built
  obtain ⟨-, attributes, columns, -⟩ := frontendFields_exact built
  refine ⟨built, by decide, ?_, ?_⟩
  · obtain ⟨_, ⟨⟩, found⟩ := attributes (.named "label" "store" "Shop")
      ⟨⟨Games.store, by decide, by decide⟩, rfl⟩
    exact found
  · have unexposed : ∀ g, Games.starWithStores.IsAttribute g → g.name ≠ "amount" := by
      rintro g ⟨⟨t, member, field⟩, -⟩
      revert g
      revert t
      decide
    obtain ⟨_, ⟨⟩, found⟩ := columns (.named .value "amount_eur" "amount" "Amount")
      ⟨⟨Games.sales, by decide, rfl, by decide⟩, by decide, rfl⟩ unexposed
    exact found

end Schema

end StarPlan
