import StarPlan.Proofs.Plan.Joins

/-!
# Sources of fields and the grain of a table

A field comes from a plain column of the table itself, or else from the dimension that exposes
it, joined over a plain column that carries the dimension's key. `exists_locate?_iff` says so
for any schema that can be built.

Whether the select items leave a table at the requested grain is a matter of the list alone:
`isAtGrain_selected_iff` says that they do exactly if the selected aliases and the plain
aliases of the table are the same. A joined field is no plain alias, so it spoils the grain,
although the key that it uses up may have been the last column left.
-/

namespace StarPlan

namespace FactTable

/-- A table provides a field by a plain column, or through a dimension whose key it carries. -/
def Provides (s : Schema) (t : FactTable) (name : Alias) : Prop :=
  name ∈ t.plainAliases ∨ ∃ d, s.Exposes name d ∧ d.serviceKey.name ∈ t.plainAliases

/-- The plain aliases of a table are the selected ones. -/
def AtGrain (t : FactTable) (select : List Alias) : Prop :=
  (∀ name ∈ t.plainAliases, name ∈ select) ∧ ∀ name ∈ select, name ∈ t.plainAliases

variable {s : Schema} {t : FactTable} {name : Alias} {d : DimensionLookup} {keys : JoinKeys}

theorem joinKeys?_eq_some_iff (built : t.Built) :
    t.joinKeys? d = some keys ↔
      ∃ f ∈ t.fields, f.name = d.serviceKey.name ∧ f.calculation = none ∧
        keys = ⟨f.column, d.serviceKey.column⟩ := by
  simp only [joinKeys?, Option.map_eq_some_iff, built.plainField?_eq_some_iff]
  constructor
  · rintro ⟨f, ⟨member, named, plain⟩, rfl⟩
    exact ⟨f, member, named, plain, rfl⟩
  · rintro ⟨f, member, named, plain, rfl⟩
    exact ⟨f, ⟨member, named, plain⟩, rfl⟩

theorem exists_joinKeys?_iff (built : t.Built) :
    (∃ keys, t.joinKeys? d = some keys) ↔ d.serviceKey.name ∈ t.plainAliases := by
  rw [← built.isSome_plainField?_iff, ← Option.isSome_iff_exists, joinKeys?, Option.isSome_map]

theorem locate?_eq_native_iff {f : FactField} :
    t.locate? s name = some (.native f) ↔ t.plainField? name = some f := by
  unfold locate? source?
  cases t.plainField? name with
  | some g => simp
  | none =>
      cases s.lookupDimension name with
      | none => simp
      | some d => cases t.joinKeys? d <;> simp

theorem locate?_eq_joined_iff :
    t.locate? s name = some (.joined d keys) ↔
      t.plainField? name = none ∧ s.lookupDimension name = some d ∧
        t.joinKeys? d = some keys := by
  unfold locate? source?
  cases t.plainField? name with
  | some f => simp
  | none =>
      simp only [Option.map_none, Option.none_or, Option.bind_eq_some_iff,
        Option.map_eq_some_iff, FieldSource.joined.injEq, true_and]
      constructor
      · rintro ⟨d', found, keys', held, rfl, rfl⟩
        exact ⟨found, held⟩
      · rintro ⟨found, held⟩
        exact ⟨d, found, keys, held, rfl, rfl⟩

theorem plainField?_of_plain (plain : ∀ f ∈ t.fields, f.calculation = none) (name : Alias) :
    t.plainField? name = t.field? name := by
  rw [plainField?]
  cases found : t.field? name with
  | none => rfl
  | some f =>
      have isPlain : f.isPlain = true := by
        rw [FactField.isPlain, plain f (List.mem_of_find?_eq_some found)]
        rfl
      rw [Option.filter_some, if_pos isPlain]

theorem exists_locate?_iff (sound : s.Sound) (built : t.Built) :
    (∃ source, t.locate? s name = some source) ↔ t.Provides s name := by
  constructor
  · rintro ⟨f | ⟨d, keys⟩, found⟩
    · have plain := locate?_eq_native_iff.1 found
      exact .inl (built.isSome_plainField?_iff.1 (by rw [plain]; rfl))
    · obtain ⟨-, looked, held⟩ := locate?_eq_joined_iff.1 found
      exact .inr ⟨d, sound.lookupDimension_eq_some_iff.1 looked,
        (exists_joinKeys?_iff built).1 ⟨keys, held⟩⟩
  · intro provided
    cases plain : t.plainField? name with
    | some f => exact ⟨.native f, locate?_eq_native_iff.2 plain⟩
    | none =>
        rcases provided with own | ⟨d, exposed, carried⟩
        · have isSome := built.isSome_plainField?_iff.2 own
          rw [plain] at isSome
          cases isSome
        · obtain ⟨keys, held⟩ := (exists_joinKeys?_iff built).2 carried
          exact ⟨.joined d keys, locate?_eq_joined_iff.2
            ⟨plain, sound.lookupDimension_eq_some_iff.2 exposed, held⟩⟩

end FactTable

/-- The plain alias that a selected field uses up. -/
def FieldSource.used (field : Alias) : FieldSource → Alias
  | .native _ => field
  | .joined d _ => d.serviceKey.name

namespace Entry

theorem select_remaining (e : Entry) (field : Alias) (source : FieldSource) :
    (e.select field source).remaining = e.remaining.erase (source.used field) := by
  cases source <;> rfl

theorem selectAll_remaining (e : Entry) (l : List (Alias × FieldSource)) (name : Alias) :
    (e.selectAll l).remaining.contains name =
      (e.remaining.contains name && l.all fun p => p.2.used p.1 != name) := by
  induction l generalizing e with
  | nil => simp
  | cons p rest ih =>
      have sym : (name != p.2.used p.1) = (p.2.used p.1 != name) := bne_comm
      rw [selectAll_cons, ih, select_remaining, Keyed.contains_erase, List.all_cons, sym,
        Bool.and_comm (p.2.used p.1 != name), Bool.and_assoc]

theorem joinSelects_isEmpty_iff (l : List (Alias × FieldSource)) (t : FactTable) :
    ((Entry.start t).selectAll l).joinSelects.isEmpty = true ↔ ∀ p ∈ l, p.2.join? = none := by
  have joined : ∀ table, ((Entry.start t).selectAll l).joinSelects.keysOf table =
      (l.filterMap (·.2.join?)).lookup table := fun table => selectAll_joinSelects ..
  simp only [Keyed.isEmpty_iff, ← Keyed.keysOf_eq_none_iff, joined, List.lookup_eq_none_iff]
  constructor
  · intro none p member
    cases decided : p.2.join? with
    | none => rfl
    | some join =>
        have listed : join ∈ l.filterMap (·.2.join?) := List.mem_filterMap.2 ⟨p, member, decided⟩
        exact absurd (none join.1 join listed) (by simp)
  · intro none table join listed
    obtain ⟨p, member, decided⟩ := List.mem_filterMap.1 listed
    rw [none p member] at decided
    cases decided

theorem start_remaining (t : FactTable) (name : Alias) :
    (Entry.start t).remaining.contains name = t.plainAliases.contains name :=
  Names.contains_ofList ..

end Entry

namespace FactTable

variable {s : Schema} {t : FactTable} {r : Request}

/-- The select items leave a table at the requested grain exactly if they name its plain
aliases, all of them and nothing else. -/
theorem isAtGrain_selected_iff (built : t.Built)
    (served : ∀ field ∈ r.select, ∃ source, t.locate? s field = some source) :
    (t.selected s r).isAtGrain = true ↔ t.AtGrain r.select := by
  rw [Entry.isAtGrain, Bool.and_eq_true, selected, Entry.joinSelects_isEmpty_iff]
  have native : (∀ p ∈ answered (t.locate? s) r.select, p.2.join? = none) ↔
      ∀ name ∈ r.select, name ∈ t.plainAliases := by
    constructor
    · intro none name member
      obtain ⟨source, found⟩ := served name member
      have decided := none (name, source) (mem_answered_iff.2 ⟨member, found⟩)
      cases source with
      | native f =>
          refine built.isSome_plainField?_iff.1 ?_
          rw [locate?_eq_native_iff.1 found]
          rfl
      | joined d keys => cases decided
    · rintro plain ⟨name, f | ⟨d, keys⟩⟩ member
      · rfl
      · obtain ⟨listed, found⟩ := mem_answered_iff.1 member
        have own := built.isSome_plainField?_iff.2 (plain name listed)
        rw [(locate?_eq_joined_iff.1 found).1] at own
        cases own
  rw [native, Keyed.isEmpty_iff, AtGrain]
  refine and_congr_left fun plain => forall_congr' fun name => ?_
  -- With no field joined, every select item uses up its own alias.
  have own : ∀ p ∈ answered (t.locate? s) r.select, p.2.used p.1 = p.1 := by
    intro p member
    have decided := native.2 plain p member
    obtain ⟨field, f | ⟨d, keys⟩⟩ := p
    · rfl
    · cases decided
  have listed : name ∈ r.select ↔ ∃ p ∈ answered (t.locate? s) r.select, p.1 = name := by
    rw [← List.mem_map, map_fst_answered served]
  rw [← Keyed.contains_eq_false_iff, Entry.selectAll_remaining, Entry.start_remaining,
    Bool.and_eq_false_imp, List.contains_iff_mem]
  apply imp_congr_right
  intro _
  rw [List.all_eq_false, listed]
  refine exists_congr fun p => and_congr_right fun member => ?_
  rw [own p member]
  simp

end FactTable

end StarPlan
