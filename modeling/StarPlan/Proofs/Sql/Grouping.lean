import Mathlib.Data.Multiset.Bind
import Mathlib.Data.Multiset.Dedup

/-!
# Groups of rows

`groupsBy` takes a bag of rows apart by a key. What is computed from the groups depends on the
key only through the rows that it tells apart (`map_groupsBy_congr`), and rows may be grouped
finely first and the groups coarsely afterwards (`groupsBy_groupsBy`). `grouped` is grouping by
a list of expressions, where by none there is one group, even of no rows.
-/

namespace StarPlan.Sql

variable {α β γ κ ι : Type}

section

variable [DecidableEq κ]

/-- For every key that occurs, the rows that have it. -/
def groupsBy (key : α → κ) (rows : Multiset α) : Multiset (κ × Multiset α) :=
  (rows.map key).dedup.map fun k => (k, rows.filter fun row => key row = k)

/-- Two keys that tell the same rows apart occur equally often. -/
theorem map_dedup_congr [DecidableEq ι] {key : α → κ} {key' : α → ι} {f : κ → β} {f' : ι → β}
    {rows : Multiset α}
    (apart : ∀ a ∈ rows, ∀ b ∈ rows, key a = key b ↔ key' a = key' b)
    (same : ∀ a ∈ rows, f (key a) = f' (key' a)) :
    (rows.map key).dedup.map f = (rows.map key').dedup.map f' := by
  induction rows using Multiset.induction with
  | empty => rfl
  | cons a rest ih =>
      have tail := ih
        (fun b hb c hc => apart b (Multiset.mem_cons_of_mem hb) c (Multiset.mem_cons_of_mem hc))
        fun b hb => same b (Multiset.mem_cons_of_mem hb)
      have known : key a ∈ rest.map key ↔ key' a ∈ rest.map key' := by
        simp only [Multiset.mem_map]
        refine exists_congr fun b => and_congr_right fun hb => ?_
        exact apart b (Multiset.mem_cons_of_mem hb) a (Multiset.mem_cons_self a rest)
      rw [Multiset.map_cons, Multiset.map_cons]
      by_cases old : key a ∈ rest.map key
      · rw [Multiset.dedup_cons_of_mem old, Multiset.dedup_cons_of_mem (known.1 old), tail]
      · rw [Multiset.dedup_cons_of_notMem old,
          Multiset.dedup_cons_of_notMem fun new => old (known.2 new),
          Multiset.map_cons, Multiset.map_cons, tail, same a (Multiset.mem_cons_self a rest)]

theorem map_groupsBy_congr [DecidableEq ι] {key : α → κ} {key' : α → ι}
    {f : κ × Multiset α → β} {f' : ι × Multiset α → β} {rows : Multiset α}
    (apart : ∀ a ∈ rows, ∀ b ∈ rows, key a = key b ↔ key' a = key' b)
    (same : ∀ a ∈ rows, ∀ group ≤ rows, a ∈ group → f (key a, group) = f' (key' a, group)) :
    (groupsBy key rows).map f = (groupsBy key' rows).map f' := by
  rw [groupsBy, groupsBy, Multiset.map_map, Multiset.map_map]
  apply map_dedup_congr apart
  intro a ha
  have group : (rows.filter fun b => key b = key a) = rows.filter fun b => key' b = key' a :=
    Multiset.filter_congr fun b hb => apart b hb a ha
  rw [Function.comp_apply, Function.comp_apply, ← group]
  exact same a ha _ (Multiset.filter_le _ _) (Multiset.mem_filter.2 ⟨ha, rfl⟩)

theorem groupsBy_map (key : β → κ) (g : α → β) (rows : Multiset α) :
    groupsBy key (rows.map g) =
      (groupsBy (fun row => key (g row)) rows).map fun p => (p.1, p.2.map g) := by
  rw [groupsBy, groupsBy, Multiset.map_map, Multiset.map_map]
  apply Multiset.map_congr rfl
  intro k _
  rw [Function.comp_apply, Multiset.filter_map]
  rfl

/-- To drop rows by their key is to drop their groups. -/
theorem groupsBy_filter (key : α → κ) (p : κ → Prop) [DecidablePred p] (rows : Multiset α) :
    groupsBy key (rows.filter fun row => p (key row)) =
      (groupsBy key rows).filter fun group => p group.1 := by
  have keys : ((rows.filter fun row => p (key row)).map key).dedup =
      (rows.map key).dedup.filter p := by
    apply Multiset.Nodup.ext (Multiset.nodup_dedup _) ((Multiset.nodup_dedup _).filter _) |>.2
    intro k
    simp only [Multiset.mem_dedup, Multiset.mem_map, Multiset.mem_filter]
    constructor
    · rintro ⟨row, ⟨member, holds⟩, rfl⟩
      exact ⟨⟨row, member, rfl⟩, holds⟩
    · rintro ⟨⟨row, member, rfl⟩, holds⟩
      exact ⟨row, ⟨member, holds⟩, rfl⟩
  rw [groupsBy, groupsBy, Multiset.filter_map, keys]
  apply Multiset.map_congr rfl
  intro k hk
  have holds : p k := (Multiset.mem_filter.1 hk).2
  rw [Multiset.filter_filter]
  refine congrArg (Prod.mk k) (Multiset.filter_congr fun row _ => ?_)
  constructor
  · exact fun both => both.1
  · exact fun same => ⟨same, same ▸ holds⟩

/-- Put together again, the groups of some keys are the rows with these keys. -/
theorem bind_filter_key (key : α → κ) {keys : Multiset κ} (distinct : keys.Nodup)
    (rows : Multiset α) :
    (keys.bind fun k => rows.filter fun row => key row = k) =
      rows.filter fun row => key row ∈ keys := by
  induction keys using Multiset.induction with
  | empty => simp
  | cons k rest ih =>
      obtain ⟨fresh, distinct⟩ := Multiset.nodup_cons.1 distinct
      have none : (rows.filter fun row => key row = k ∧ key row ∈ rest) = 0 := by
        apply Multiset.filter_eq_nil.2
        intro row _ both
        exact fresh (both.1 ▸ both.2)
      rw [Multiset.cons_bind, ih distinct, Multiset.filter_add_filter, none, add_zero]
      exact Multiset.filter_congr fun row _ => Multiset.mem_cons.symm

theorem bind_groupsBy (key : α → κ) (rows : Multiset α) :
    (groupsBy key rows).bind Prod.snd = rows := by
  rw [groupsBy, Multiset.bind_map, bind_filter_key key (Multiset.nodup_dedup _)]
  apply Multiset.filter_eq_self.2
  intro row member
  exact Multiset.mem_dedup.2 (Multiset.mem_map_of_mem key member)

/-- Grouping by a coarse key is grouping the groups of a fine one. -/
theorem groupsBy_groupsBy [DecidableEq ι] (fine : α → κ) (coarse : κ → ι) (rows : Multiset α) :
    groupsBy (fun row => coarse (fine row)) rows =
      (groupsBy (fun group => coarse group.1) (groupsBy fine rows)).map
        fun p => (p.1, p.2.bind Prod.snd) := by
  have keys : ((groupsBy fine rows).map fun group => coarse group.1).dedup =
      (rows.map fun row => coarse (fine row)).dedup := by
    rw [groupsBy, Multiset.map_map]
    exact (Multiset.dedup_map_dedup_eq coarse _).trans (by rw [Multiset.map_map]; rfl)
  have merged : ∀ k, ((groupsBy fine rows).filter fun group => coarse group.1 = k).bind Prod.snd =
      rows.filter fun row => coarse (fine row) = k := by
    intro k
    rw [← groupsBy_filter fine (fun k' => coarse k' = k), bind_groupsBy]
  show _ = Multiset.map _ (Multiset.map _ (Multiset.dedup _))
  rw [groupsBy, Multiset.map_map, keys]
  exact Multiset.map_congr rfl fun k _ => congrArg (Prod.mk k) (merged k).symm

end

/-- The groups of rows by the values of expressions, each with these values. -/
def grouped [DecidableEq ι] [DecidableEq κ] (exprs : List ι) (value : ι → α → κ)
    (rows : Multiset α) : Multiset (List (ι × κ) × Multiset α) :=
  if exprs.isEmpty then {([], rows)}
  else groupsBy (fun row => exprs.map fun x => (x, value x row)) rows

theorem grouped_nil [DecidableEq ι] [DecidableEq κ] (value : ι → α → κ) (rows : Multiset α) :
    grouped [] value rows = {([], rows)} := rfl

theorem grouped_of_ne_nil [DecidableEq ι] [DecidableEq κ] {exprs : List ι} (some : exprs ≠ [])
    (value : ι → α → κ) (rows : Multiset α) :
    grouped exprs value rows = groupsBy (fun row => exprs.map fun x => (x, value x row)) rows :=
  if_neg fun empty => some (List.isEmpty_iff.1 empty)

/-- Two groupings of the same things that tell the same ones apart have the same groups. -/
theorem map_grouped_congr {δ ι' : Type} [DecidableEq ι] [DecidableEq ι'] [DecidableEq κ]
    {exprs : List ι} {exprs' : List ι'} {value : ι → β → κ} {value' : ι' → γ → κ}
    {row : α → β} {row' : α → γ} {things : Multiset α}
    {f : List (ι × κ) × Multiset β → δ} {f' : List (ι' × κ) × Multiset γ → δ}
    (none : exprs = [] ↔ exprs' = [])
    (apart : ∀ a ∈ things, ∀ b ∈ things, (∀ x ∈ exprs, value x (row a) = value x (row b)) ↔
      ∀ x ∈ exprs', value' x (row' a) = value' x (row' b))
    (whole : exprs = [] → f ([], things.map row) = f' ([], things.map row'))
    (same : ∀ a ∈ things, ∀ group ≤ things,
      f (exprs.map fun x => (x, value x (row a)), group.map row) =
        f' (exprs'.map fun x => (x, value' x (row' a)), group.map row')) :
    (grouped exprs value (things.map row)).map f =
      (grouped exprs' value' (things.map row')).map f' := by
  by_cases single : exprs = []
  · rw [single, none.1 single, grouped_nil, grouped_nil, Multiset.map_singleton,
      Multiset.map_singleton, whole single]
  · rw [grouped_of_ne_nil single, grouped_of_ne_nil fun empty => single (none.2 empty),
      groupsBy_map, groupsBy_map, Multiset.map_map, Multiset.map_map]
    refine map_groupsBy_congr ?_ fun a ha group within _ => same a ha group within
    intro a ha b hb
    simp only [List.map_inj_left, Prod.mk.injEq, true_and]
    exact apart a ha b hb

end StarPlan.Sql
