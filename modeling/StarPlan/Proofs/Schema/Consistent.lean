import Mathlib.Data.List.Nodup
import StarPlan.Proofs.Schema.Built

/-!
# Schemas after any calls

A caller may offer fields to tables and tables to a schema as it likes, and go on after a
refusal: what does not suit changes nothing. `Schema.ofCalls` is what has come about in the end,
and `Schema.consistent_ofCalls` says what can be relied on, whatever was offered: names and
aliases lead to one thing each, each dimension has one key to be joined by, and everything that
users may see has a name for them. The look-up of an alias is unambiguous for that reason alone.

A call that is accepted is a step of `Schema.Built` and one that is refused is no step, so the
invariants are those of built tables and schemas, of which each accepted call keeps one more.
-/

namespace StarPlan

/-- A call on a fact table that is being made. -/
inductive FactCall where
  | asBase
  | addField (f : FactField)
deriving DecidableEq, Repr

/-- A table offered to a schema, as it came about: a fact table by calls, a dimension by the
fields that were offered to it. -/
inductive SchemaCall where
  | addFact (name : TableName) (calls : List FactCall)
  | addDimension (name : TableName) (fields : List DimensionField)
deriving DecidableEq, Repr

/-- What holds of a value and of whatever an offer makes of it where it is accepted also holds of
what is left when a refusal, which changes nothing, is passed over. -/
private theorem offered {σ : Type} {P : σ → Prop} {x : σ} {offer : Offer σ} (old : P x)
    (refused : offer.fault? ≠ none → offer.left = x)
    (accepted : ∀ {y}, offer.toExcept = .ok y → P y) : P offer.left := by
  cases fault : offer.fault? with
  | none => exact accepted (Offer.toExcept_eq_ok_iff.2 ⟨fault, rfl⟩)
  | some =>
      rw [refused (fault ▸ Option.some_ne_none _)]
      exact old

namespace FactTable

/-- The table after a call, be it accepted or refused. -/
def after (t : FactTable) : FactCall → FactTable
  | .asBase => t.asBase
  | .addField f => (t.offer f).left

/-- The table that comes about by calls. -/
def ofCalls (name : TableName) (calls : List FactCall) : FactTable :=
  calls.foldl after (.new name)

variable {t : FactTable} {f : FactField}

theorem fault?_eq_none_iff :
    t.fault? f = none ↔
      t.field? f.name = none ∧
        (f.isKey = true → f.frontName = none ∧ f.calculation = none) ∧
        (f.isKey = false → f.calculation = none → f.frontName.isSome = true) ∧
        (f.calculation = none → f.following = none) := by
  unfold fault? kindFault?
  cases t.field? f.name <;> cases f.isKey <;> cases f.frontName <;> cases f.calculation <;>
    cases f.following <;> simp

theorem Built.frontName (h : t.Built) (member : f ∈ t.fields) (notKey : f.isKey = false)
    (plain : f.calculation = none) : f.frontName.isSome = true := by
  induction h with
  | new => cases member
  | asBase _ ih => exact ih member
  | addField _ accepted ih =>
      obtain ⟨suits, rfl⟩ := addField_eq_ok_iff.1 accepted
      rcases List.mem_append.1 member with old | new
      · exact ih old
      · rw [List.mem_singleton.1 new] at notKey plain ⊢
        exact (fault?_eq_none_iff.1 suits).2.2.1 notKey plain

theorem Built.after (h : t.Built) (call : FactCall) : (t.after call).Built := by
  cases call with
  | asBase => exact h.asBase
  | addField f => exact offered h left_of_refused h.addField

theorem built_ofCalls (name : TableName) (calls : List FactCall) : (ofCalls name calls).Built :=
  List.foldlRecOn calls FactTable.after (.new name) fun _ h call _ => h.after call

end FactTable

namespace DimensionTable

/-- The table after a field was offered, be it accepted or refused. -/
def after (t : DimensionTable) (f : DimensionField) : DimensionTable :=
  (t.offer f).left

/-- The table that comes about by offering fields. -/
def ofCalls (name : TableName) (fields : List DimensionField) : DimensionTable :=
  fields.foldl after (.new name)

variable {t : DimensionTable} {f : DimensionField}

theorem fault?_eq_none_iff :
    t.fault? f = none ↔
      f.kind ≠ .value ∧ t.field? f.name = none ∧
        (f.isKey = true → f.frontName = none ∧ f.countsByKey = false ∧ t.serviceKey? = none) ∧
        (f.isKey = false → f.frontName.isSome = true) := by
  unfold fault? nameFault? DimensionField.isKey
  cases f.kind <;> cases t.field? f.name <;> cases f.frontName <;> cases f.countsByKey <;>
    cases t.serviceKey? <;> simp

/-- What holds of every field that some table accepts holds of every field of a built table. -/
theorem Built.field (h : t.Built) {P : DimensionField → Prop}
    (accepts : ∀ {t : DimensionTable} {f}, t.fault? f = none → P f) (member : f ∈ t.fields) :
    P f := by
  induction h with
  | new => cases member
  | addField _ accepted ih =>
      obtain ⟨suits, rfl⟩ := addField_eq_ok_iff.1 accepted
      rcases List.mem_append.1 member with old | new
      · exact ih old
      · rw [List.mem_singleton.1 new]
        exact accepts suits

theorem Built.frontName (h : t.Built) (member : f ∈ t.fields) (notKey : f.isKey = false) :
    f.frontName.isSome = true :=
  h.field (P := fun f => f.isKey = false → f.frontName.isSome = true)
    (fun suits => (fault?_eq_none_iff.1 suits).2.2.2) member notKey

theorem Built.key (h : t.Built) (member : f ∈ t.fields) (key : f.isKey = true) :
    f.frontName = none ∧ f.countsByKey = false :=
  h.field (P := fun f => f.isKey = true → f.frontName = none ∧ f.countsByKey = false)
    (fun suits key =>
      have ⟨unnamed, uncounted, _⟩ := (fault?_eq_none_iff.1 suits).2.2.1 key
      ⟨unnamed, uncounted⟩) member key

theorem Built.filter_isKey (h : t.Built) :
    t.fields.filter DimensionField.isKey = t.serviceKey?.toList := by
  induction h with
  | new => rfl
  | @addField t _ f _ accepted ih =>
      obtain ⟨suits, rfl⟩ := addField_eq_ok_iff.1 accepted
      have found : serviceKey? { t with fields := t.fields ++ [f] } =
          t.serviceKey?.or ([f].find? DimensionField.isKey) := List.find?_append
      rw [List.filter_append, ih, found]
      cases key : f.isKey with
      | false => simp [key]
      | true => simp [key, ((fault?_eq_none_iff.1 suits).2.2.1 key).2.2]

theorem built_ofCalls (name : TableName) (fields : List DimensionField) :
    (ofCalls name fields).Built :=
  List.foldlRecOn fields DimensionTable.after (.new name) fun _ h _ _ =>
    offered h left_of_refused h.addField

end DimensionTable

namespace Schema

/-- The schema after a table was offered, be it accepted or refused. -/
def after (s : Schema) : SchemaCall → Schema
  | .addFact name calls => (s.offerFact (.ofCalls name calls)).left
  | .addDimension name fields => (s.offerDimension (.ofCalls name fields)).left

/-- The schema that comes about by offering tables. -/
def ofCalls (calls : List SchemaCall) : Schema :=
  calls.foldl after .empty

theorem built_ofCalls (calls : List SchemaCall) : (ofCalls calls).Built := by
  refine List.foldlRecOn calls Schema.after .empty fun s h call _ => ?_
  cases call with
  | addFact name calls =>
      exact offered h left_of_refused_fact (h.addFact (FactTable.built_ofCalls name calls))
  | addDimension name fields =>
      exact offered h left_of_refused_dimension
        (h.addDimension (DimensionTable.built_ofCalls name fields))

/-- What can be relied on in a schema. -/
structure Consistent (s : Schema) : Prop where
  factName : ∀ {name t}, s.facts.get? name = some t → t.name = name
  dimensionName : ∀ {name t}, s.dimensions.get? name = some t → t.name = name
  /-- No name is used by two tables, of whichever kind. -/
  names : (s.facts.values.map (·.name) ++ s.dimensions.values.map (·.name)).Nodup
  base : ∀ t ∈ s.facts.values, ∀ u ∈ s.facts.values, t.isBase = true → u.isBase = true → t = u
  key : ∀ t ∈ s.dimensions.values, ∃ key, t.fields.filter DimensionField.isKey = [key] ∧
    key.frontName = none ∧ key.countsByKey = false
  factAliases : ∀ t ∈ s.facts.values, (t.fields.map (·.name)).Nodup
  /-- No alias is exposed by two fields, be they of one dimension or of two. -/
  dimensionAliases : ((s.dimensions.values.flatMap (·.fields)).map (·.name)).Nodup
  factFrontName : ∀ t ∈ s.facts.values, ∀ f ∈ t.fields, f.isKey = false → f.calculation = none →
    f.frontName.isSome = true
  dimensionFrontName : ∀ t ∈ s.dimensions.values, ∀ f ∈ t.fields, f.isKey = false →
    f.frontName.isSome = true

/-- The only table that exposes an alias, its only field under the alias, and its only key. -/
structure IsOnly (s : Schema) (name : Alias) (d : DimensionLookup) : Prop where
  table : d.table ∈ s.dimensions.values
  field : d.field ∈ d.table.fields
  named : d.field.name = name
  only : ∀ t ∈ s.dimensions.values, ∀ f ∈ t.fields, f.name = name → t = d.table ∧ f = d.field
  key : d.table.fields.filter DimensionField.isKey = [d.serviceKey]

variable {s : Schema}

theorem Built.base_unique (h : s.Built) {t u : FactTable} (ht : t ∈ s.facts.values)
    (hu : u ∈ s.facts.values) (baseT : t.isBase = true) (baseU : u.isBase = true) : t = u := by
  induction h with
  | empty => cases ht
  | addDimension _ _ accepted ih =>
      obtain ⟨-, rfl⟩ := addDimension_eq_ok_iff.1 accepted
      exact ih ht hu
  | @addFact s _ new _ _ accepted ih =>
      obtain ⟨suits, rfl⟩ := addFact_eq_ok_iff.1 accepted
      -- A new base table is refused beside an old one.
      have alone := (factFault?_eq_none_iff.1 suits).2
      rcases Keyed.eq_or_mem_of_mem_values_insert ht with rfl | oldT <;>
        rcases Keyed.eq_or_mem_of_mem_values_insert hu with rfl | oldU
      · rfl
      · simp [alone baseT u oldU] at baseU
      · simp [alone baseU t oldT] at baseT
      · exact ih oldT oldU

/-- The values of a map that files each value under its own name have distinct names. -/
theorem map_name_values {α : Type} {m : Keyed α} {nameOf : α → String}
    (named : ∀ {name a}, m.get? name = some a → nameOf a = name) :
    m.values.map nameOf = m.names := by
  rw [Keyed.values, Keyed.names, List.map_map]
  refine List.map_congr_left fun entry listed => ?_
  exact named (Keyed.get?_eq_some_iff.2 listed)

namespace Sound

theorem nodup_names (h : s.Sound) :
    (s.facts.values.map (·.name) ++ s.dimensions.values.map (·.name)).Nodup := by
  rw [map_name_values h.factName, map_name_values h.dimensionName]
  refine List.nodup_append.2 ⟨s.facts.nodup_names, s.dimensions.nodup_names, ?_⟩
  rintro name fact _ dimension rfl
  obtain ⟨⟨_, t⟩, listed, rfl⟩ := List.mem_map.1 fact
  obtain ⟨⟨_, d⟩, listed', rfl⟩ := List.mem_map.1 dimension
  have apart := h.apart (Keyed.contains_iff.2 ⟨t, Keyed.get?_eq_some_iff.2 listed⟩)
  rw [Keyed.contains_iff.2 ⟨d, Keyed.get?_eq_some_iff.2 listed'⟩] at apart
  cases apart

theorem nodup_aliases (h : s.Sound) :
    ((s.dimensions.values.flatMap (·.fields)).map (·.name)).Nodup := by
  rw [List.map_flatMap, List.nodup_flatMap]
  refine ⟨fun t member => (h.dimension member).nodup_names, ?_⟩
  -- Two tables of the list differ, so they share no alias.
  have distinct : s.dimensions.values.Nodup :=
    (List.nodup_append.1 h.nodup_names).2.1.of_map
  refine distinct.imp_of_mem fun {t u} memberT memberU differs => ?_
  intro name inT inU
  obtain ⟨f, fieldT, rfl⟩ := List.mem_map.1 inT
  obtain ⟨g, fieldU, same⟩ := List.mem_map.1 inU
  exact differs (h.exposed memberT memberU fieldT fieldU same.symm)

theorem filter_isKey (h : s.Sound) {t : DimensionTable} (member : t ∈ s.dimensions.values) :
    ∃ key, t.fields.filter DimensionField.isKey = [key] := by
  obtain ⟨key, field, isKey⟩ := h.keyed member
  have built := h.dimension member
  exact ⟨key, by rw [built.filter_isKey, built.serviceKey?_eq_some_iff.2 ⟨field, isKey⟩]; rfl⟩

theorem exposes_iff_isOnly (h : s.Sound) {name : Alias} {d : DimensionLookup} :
    s.Exposes name d ↔ s.IsOnly name d := by
  constructor
  · intro exposed
    have built := h.dimension exposed.table
    refine ⟨exposed.table, exposed.field, exposed.named, ?_, ?_⟩
    · intro t member f field named
      have same : t = d.table :=
        h.exposed member exposed.table field exposed.field (named.trans exposed.named.symm)
      subst same
      exact ⟨rfl, List.inj_on_of_nodup_map built.nodup_names field exposed.field
        (named.trans exposed.named.symm)⟩
    · rw [built.filter_isKey, built.serviceKey?_eq_some_iff.2 ⟨exposed.key, exposed.isKey⟩]
      rfl
  · intro only
    have key : d.serviceKey ∈ d.table.fields.filter DimensionField.isKey := by simp [only.key]
    exact ⟨only.table, only.field, only.named, (List.mem_filter.1 key).1, (List.mem_filter.1 key).2⟩

end Sound

theorem Built.consistent (h : s.Built) : s.Consistent where
  factName := h.sound.factName
  dimensionName := h.sound.dimensionName
  names := h.sound.nodup_names
  base _ ht _ hu := h.base_unique ht hu
  key t member := by
    obtain ⟨key, only⟩ := h.sound.filter_isKey member
    have listed : key ∈ t.fields.filter DimensionField.isKey := by simp [only]
    exact ⟨key, only, (h.sound.dimension member).key (List.mem_filter.1 listed).1
      (List.mem_filter.1 listed).2⟩
  factAliases t member := (h.sound.fact member).nodup_names
  dimensionAliases := h.sound.nodup_aliases
  factFrontName t member f field := (h.sound.fact member).frontName field
  dimensionFrontName t member f field := (h.sound.dimension member).frontName field

/-- Whatever is offered to a schema in whatever order, and whatever of it is refused, the schema
is consistent; an alias is found exactly if a dimension exposes it, and what is found is the only
dimension that does, with its only field of that alias and its only key. -/
theorem consistent_ofCalls (calls : List SchemaCall) :
    let s := ofCalls calls
    s.Consistent ∧
      ∀ name, ((s.lookupDimension name).isSome = true ↔
          ∃ t ∈ s.dimensions.values, ∃ f ∈ t.fields, f.name = name) ∧
        ∀ d, s.lookupDimension name = some d ↔ s.IsOnly name d := by
  intro s
  have built : s.Built := built_ofCalls calls
  refine ⟨built.consistent, fun name => ⟨?_, fun d => ?_⟩⟩
  · rw [← Option.ne_none_iff_isSome, ne_eq, built.sound.lookupDimension_eq_none_iff]
    push Not
    exact Iff.rfl
  · rw [built.sound.lookupDimension_eq_some_iff, built.sound.exposes_iff_isOnly]

/-- A second base table, a repeated alias and a dimension that exposes an alias again are refused
on the way to the star of game sales. -/
example :
    ofCalls
      [.addDimension Games.game.name (Games.game.fields ++ [.serviceKey "sk_other" "other_key"]),
        .addFact Games.sales.name (.asBase :: Games.sales.fields.map .addField),
        .addFact "shop.archive" [.asBase],
        .addDimension "shop.dim_genre" [.serviceKey "sk" "genre_key", .named "g" "genre" "Genre"],
        .addFact Games.byYear.name
          (Games.byYear.fields.map .addField ++ [.addField (.serviceKey "again" "year")])] =
      Games.star := by
  decide

end Schema

end StarPlan
