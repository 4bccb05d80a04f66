import Mathlib.Data.Set.Card
import StarPlan.Plan.Builder
import StarPlan.Proofs.Plan.Contents

/-!
# The columns that a request leaves unused

A rendered query comes with the number of plain columns that the request left unused, by which
callers tell the tables apart that could answer. A select item uses up one column: its own, or
the key by which its dimension is joined. Two items may use up the same column, and filters and
aggregates use up none (`Plan.keepsRemaining_applyAll`). So the number is that of the plain
aliases that are neither selected nor keys of dimensions that selected fields come from:
`Schema.remaining_eq_unused`.
-/

namespace StarPlan

/-- A plain alias of a table that the select items of a request pass by: it is not selected, nor
is it the key of a dimension that a selected field comes from. -/
structure FactTable.Unused (s : Schema) (t : FactTable) (select : List Alias) (name : Alias) :
    Prop where
  plain : name ∈ t.plainAliases
  unselected : name ∉ select
  unjoined : ∀ field ∈ select, field ∉ t.plainAliases →
    ∀ d, s.Exposes field d → d.serviceKey.name ≠ name

/-! Filters and aggregates use up nothing. -/

namespace Entry

theorem filter_remaining (e : Entry) (item : FilterItem) (source : FieldSource) :
    (e.filter item source).remaining = e.remaining := by
  cases source <;> rfl

theorem record_remaining (e : Entry) (record : AggregateRecord) :
    (e.record record).remaining = e.remaining := by
  cases record <;> rfl

end Entry

theorem RequestItem.remaining_of_serve {s : Schema} {o : Options} {t : FactTable} {e e' : Entry}
    {item : RequestItem} (other : ∀ field, item ≠ .select field)
    (served : (item.serve s o t e).1 = some e') : e'.remaining = e.remaining := by
  cases item with
  | select field => exact absurd rfl (other field)
  | filter item =>
      rw [FactTable.serve_filter, Option.map_eq_some_iff] at served
      obtain ⟨source, -, rfl⟩ := served
      exact e.filter_remaining item source
  | aggregate item =>
      rw [FactTable.serve_aggregate, Option.map_eq_some_iff] at served
      obtain ⟨record, -, rfl⟩ := served
      exact e.record_remaining record

namespace Plan

variable {s : Schema} {o : Options} {p p' p'' : Plan}

/-- What is live in the second plan was live in the first, with the same columns unused. -/
def KeepsRemaining (p p' : Plan) : Prop :=
  ∀ name e', p'.live.get? name = some e' →
    ∃ e, p.live.get? name = some e ∧ e'.remaining = e.remaining

theorem keepsRemaining_iff :
    p.KeepsRemaining p' ↔ LiveFrom (fun e e' => e'.remaining = e.remaining) p p' :=
  Iff.rfl

theorem KeepsRemaining.refl (p : Plan) : p.KeepsRemaining p := by
  rw [keepsRemaining_iff]
  refine LiveFrom.refl ?_ p
  exact fun e => rfl

theorem KeepsRemaining.trans (h : p.KeepsRemaining p') (h' : p'.KeepsRemaining p'') :
    p.KeepsRemaining p'' := by
  rw [keepsRemaining_iff] at *
  exact h.trans (fun same same' => same'.trans same) h'

theorem keepsRemaining_visit {item : RequestItem} (other : ∀ field, item ≠ .select field)
    (p : Plan) (t : FactTable) : p.KeepsRemaining (visit s o item p t) := by
  rw [keepsRemaining_iff]
  refine liveFrom_visit ?_ ?_ p
  · exact fun e => rfl
  · exact RequestItem.remaining_of_serve other

/-- A run of items that select nothing leaves the columns unused that were so. -/
theorem keepsRemaining_applyAll {items : List RequestItem}
    (others : ∀ item ∈ items, ∀ field, item ≠ .select field) (p : Plan) :
    p.KeepsRemaining (p.applyAll s o items) := by
  induction items generalizing p with
  | nil => exact .refl p
  | cons item rest ih =>
      have first : p.KeepsRemaining (p.apply s o item) :=
        List.foldlRecOn s.facts.values _ (KeepsRemaining.refl p) fun q kept t _ =>
          kept.trans (keepsRemaining_visit (others item List.mem_cons_self) q t)
      exact first.trans (ih (fun other listed => others other (List.mem_cons_of_mem _ listed)) _)

theorem get?_renderAll {name : TableName} {e : Entry} (live : p.live.get? name = some e)
    (d : Sql.Dialect) : (p.renderAll d).get? name = some (e.render name d) := by
  have names : (p.live.entries.map fun entry => (entry.1, entry.2.render entry.1 d)).map (·.1) =
      p.live.entries.map (·.1) := by
    rw [List.map_map]
    rfl
  have distinct := names ▸ p.live.nodup_names
  refine (Keyed.get?_ofList distinct name).trans (Keyed.lookup_of_mem distinct ?_)
  exact List.mem_map.2 ⟨(name, e), Keyed.get?_eq_some_iff.1 live, rfl⟩

end Plan

/-- The names in a map are as many as it has entries. -/
theorem Keyed.encard_contains {α : Type} (m : Keyed α) :
    {name | m.contains name = true}.encard = m.size := by
  have listed : {name | m.contains name = true} = (m.names.toFinset : Set String) := by
    ext name
    rw [Set.mem_ofPred_eq, contains_iff, List.coe_toFinset, Set.mem_ofPred_eq, names, List.mem_map]
    simp only [get?_eq_some_iff]
    constructor
    · rintro ⟨value, held⟩
      exact ⟨(name, value), held, rfl⟩
    · rintro ⟨⟨_, value⟩, held, rfl⟩
      exact ⟨value, held⟩
  have distinct : m.names.Nodup := m.nodup_names
  rw [listed, Set.encard_coe_eq_coe_finsetCard, List.toFinset_card_of_nodup distinct, names,
    List.length_map, size]

namespace FactTable

variable {s : Schema} {o : Options} {t : FactTable} {r : Request}

/-- What the sources of the select items do not use up. -/
theorem used_ne_iff (sound : s.Sound) (built : t.Built)
    (served : ∀ field ∈ r.select, ∃ source, t.locate? s field = some source) {name : Alias}
    (plain : name ∈ t.plainAliases) :
    (∀ p ∈ answered (t.locate? s) r.select, p.2.used p.1 ≠ name) ↔ t.Unused s r.select name := by
  constructor
  · intro passes
    refine ⟨plain, fun selected => ?_, fun field selected foreign d exposed => ?_⟩
    · obtain ⟨f, found⟩ := Option.isSome_iff_exists.1 (built.isSome_plainField?_iff.2 plain)
      exact passes (name, .native f)
        (mem_answered_iff.2 ⟨selected, locate?_eq_native_iff.2 found⟩) rfl
    · obtain ⟨f | ⟨d', keys⟩, found⟩ := served field selected
      · have own := built.isSome_plainField?_iff.1
          (Option.isSome_iff_exists.2 ⟨f, locate?_eq_native_iff.1 found⟩)
        exact absurd own foreign
      · obtain ⟨-, looked, -⟩ := locate?_eq_joined_iff.1 found
        obtain rfl : d' = d :=
          Option.some.inj (looked.symm.trans (sound.lookupDimension_eq_some_iff.2 exposed))
        exact passes (field, .joined d' keys) (mem_answered_iff.2 ⟨selected, found⟩)
  · rintro unused ⟨field, f | ⟨d, keys⟩⟩ listed
    · rintro rfl
      exact unused.unselected (mem_answered_iff.1 listed).1
    · obtain ⟨selected, found⟩ := mem_answered_iff.1 listed
      obtain ⟨absent, looked, -⟩ := locate?_eq_joined_iff.1 found
      have foreign : field ∉ t.plainAliases := by
        rw [← built.isSome_plainField?_iff, absent]
        exact Bool.false_ne_true
      exact unused.unjoined field selected foreign d (sound.lookupDimension_eq_some_iff.1 looked)

theorem remaining_course_iff (sound : s.Sound) (built : t.Built) (serves : t.Serves s o r)
    (name : Alias) :
    ((t.course s o r).entry t).remaining.contains name = true ↔ t.Unused s r.select name := by
  rw [Course.entry_remaining, Bool.and_eq_true, List.contains_iff_mem, List.all_eq_true]
  simp only [bne_iff_ne]
  constructor
  · rintro ⟨plain, passes⟩
    exact (used_ne_iff sound built serves.select plain).1 passes
  · intro unused
    exact ⟨unused.plain, (used_ne_iff sound built serves.select unused.plain).2 unused⟩

end FactTable

namespace Schema

variable {s : Schema} {o : Options} {t : FactTable} {r : Request} {e : Entry}

/-- What the entry of a table has left at the end are the plain aliases that the select items pass
by. No filter and no aggregate ever changes what is left, and the number that is reported with the
query, alone or beside the others, is how many there are. -/
theorem remaining_eq_unused (built : s.Built) (member : t ∈ s.facts.values)
    (survives : (s.plan r o).live.get? t.name = some e) :
    (∀ name, e.remaining.contains name = true ↔ t.Unused s r.select name) ∧
      (∀ (p : Plan) (items : List RequestItem), (∀ item ∈ items, ∀ field, item ≠ .select field) →
        p.KeepsRemaining (p.applyAll s o items)) ∧
      (∀ table d, (e.render table d).unresolved = {name | t.Unused s r.select name}.encard) ∧
      ∀ options switch d, Options.underSwitch options switch = o → r.validate = .ok () →
        ∃ p q, s.planChecked r options switch = .ok p ∧ (p.renderAll d).get? t.name = some q ∧
          q.unresolved = {name | t.Unused s r.select name}.encard := by
  have sound := built.sound
  have left : ∀ name, e.remaining.contains name = true ↔ t.Unused s r.select name := by
    obtain ⟨serves, rfl⟩ := (plan_live_eq_some_iff sound member).1 survives
    exact FactTable.remaining_course_iff sound (sound.fact member) serves
  have count : ∀ table d,
      (e.render table d).unresolved = {name | t.Unused s r.select name}.encard := by
    intro table d
    rw [← Set.ext left]
    exact (Keyed.encard_contains e.remaining).symm
  refine ⟨left, fun p items others => Plan.keepsRemaining_applyAll others p, count, ?_⟩
  rintro options switch d rfl valid
  refine ⟨_, _, ?_, Plan.get?_renderAll survives d, count t.name d⟩
  rw [planChecked, valid]
  rfl

/-- The genres come to the sales by the key of games. The year is filtered by and the amount is
summed up, but neither is used up, so three columns are left. -/
theorem remaining_eq_unused_games :
    let r : Request := ⟨["genre"], [⟨"amount", .sum⟩], [⟨"year", .ge, "2020"⟩]⟩
    Games.sales.Unused Games.star r.select "year" ∧
      ¬Games.sales.Unused Games.star r.select "game_key" ∧
      ∃ p q, Games.star.planChecked r .standard none = .ok p ∧
        (p.renderAll Sql.postgres).get? Games.sales.name = some q ∧ q.unresolved = 3 := by
  intro r
  have live : (Games.star.plan r .standard).live.contains Games.sales.name = true := by decide
  obtain ⟨e, survives⟩ := Keyed.contains_iff.1 live
  obtain ⟨left, -, count, reported⟩ :=
    remaining_eq_unused Games.star_built (t := Games.sales) (by decide) survives
  have remaining : e.remaining = .ofList ["amount", "store", "year"] := by
    have run : ((Games.star.plan r .standard).live.get? Games.sales.name).map (·.remaining) =
        some (.ofList ["amount", "store", "year"]) := by decide
    rw [survives] at run
    exact Option.some.inj run
  obtain ⟨p, q, planned, rendered, unresolved⟩ :=
    reported .standard none Sql.postgres rfl (by decide)
  refine ⟨(left _).1 (by rw [remaining]; decide), ?_, p, q, planned, rendered, ?_⟩
  · rw [← left, remaining]
    decide
  · rw [← count Games.sales.name Sql.postgres] at unresolved
    have three : e.remaining.size = 3 := by rw [remaining]; decide
    exact (Nat.cast_inj.1 unresolved).trans three

end Schema

end StarPlan
