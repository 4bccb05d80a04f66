import Mathlib.Data.List.Pairwise
import StarPlan.Proofs.Schema.Built

/-!
# Tables may be added in any order

Each table that is added is compared with those that are there already, so what is refused seems
to depend on the order. It does not: the comparisons are symmetric. Two tables agree
(`Table.Agree`) or they do not, and a list of tables is accepted exactly if each dimension in it
has a key and each two of its tables agree (`Schema.Filed.addAll_eq_ok_iff`). The schema that
comes out files each table under its name, and distinct names can be filed in any order
(`Schema.addAll_perm`).
-/

namespace StarPlan

/-- A finished table of either kind. -/
inductive Table where
  | fact (t : FactTable)
  | dimension (t : DimensionTable)
deriving DecidableEq, Repr

namespace Table

/-- The name of a table. -/
def name : Table → TableName
  | fact t => t.name
  | dimension t => t.name

/-- A dimension has a key to be joined by. -/
def HasKey : Table → Prop
  | fact _ => True
  | dimension t => t.serviceKey?.isSome = true

/-- Two tables that can stand in one schema. -/
def Agree (a b : Table) : Prop :=
  a.name ≠ b.name ∧
    match a, b with
    | fact t, fact u => ¬(t.isBase = true ∧ u.isBase = true)
    | dimension t, dimension u => ∀ f ∈ t.fields, ∀ g ∈ u.fields, f.name ≠ g.name
    | _, _ => True

theorem Agree.symm {a b : Table} (h : a.Agree b) : b.Agree a := by
  refine ⟨h.1.symm, ?_⟩
  cases a with
  | fact t =>
      cases b with
      | fact u => exact fun both => h.2 both.symm
      | dimension u => trivial
  | dimension t =>
      cases b with
      | fact u => trivial
      | dimension u => exact fun g inU f inT same => h.2 f inT g inU same.symm

instance : Std.Symm Agree := ⟨fun _ _ => Agree.symm⟩

end Table

namespace Schema

/-- Adds a finished table. -/
def add (s : Schema) : Table → Except SchemaFault Schema
  | .fact t => s.addFact t
  | .dimension t => s.addDimension t

/-- Adds finished tables one after another, up to the first that is refused. -/
def addAll (s : Schema) (tables : List Table) : Except SchemaFault Schema :=
  tables.foldlM add s

/-- Files a table under its name without any check. -/
def put (s : Schema) : Table → Schema
  | .fact t => { s with facts := s.facts.insert t.name t }
  | .dimension t => { s with dimensions := s.dimensions.insert t.name t }

/-- A table is one of the schema. -/
def Holds (s : Schema) : Table → Prop
  | .fact t => t ∈ s.facts.values
  | .dimension t => t ∈ s.dimensions.values

/-- Every table is filed under its own name, and every dimension has a key. -/
structure Filed (s : Schema) : Prop where
  fact : ∀ {name t}, s.facts.get? name = some t → t.name = name
  dimension : ∀ {name t}, s.dimensions.get? name = some t → t.name = name
  keyed : ∀ {t}, s.Holds t → t.HasKey

variable {s s' : Schema} {t u : Table}

theorem put_comm (s : Schema) (differs : t.name ≠ u.name) :
    (s.put t).put u = (s.put u).put t := by
  cases t <;> cases u <;> simp only [put, Table.name] at differs ⊢
  · rw [Keyed.insert_comm _ differs]
  · rw [Keyed.insert_comm _ differs]

theorem filed_empty : Filed .empty where
  fact found := by cases found
  dimension found := by cases found
  keyed {t} held := by cases t <;> cases held

namespace Filed

theorem isTaken_eq_false_iff (h : s.Filed) {name : TableName} :
    s.isTaken name = false ↔ ∀ u, s.Holds u → u.name ≠ name := by
  simp only [isTaken, Bool.or_eq_false_iff, Keyed.contains_eq_false_iff]
  constructor
  · rintro ⟨noFact, noDimension⟩ u held rfl
    cases u with
    | fact t =>
        obtain ⟨name, found⟩ := Keyed.mem_values_iff.1 held
        rw [Table.name, h.fact found, found] at noFact
        cases noFact
    | dimension t =>
        obtain ⟨name, found⟩ := Keyed.mem_values_iff.1 held
        rw [Table.name, h.dimension found, found] at noDimension
        cases noDimension
  · intro free
    constructor
    · refine Option.eq_none_iff_forall_ne_some.2 fun t found => ?_
      exact free (.fact t) (Keyed.mem_values_iff.2 ⟨name, found⟩) (h.fact found)
    · refine Option.eq_none_iff_forall_ne_some.2 fun t found => ?_
      exact free (.dimension t) (Keyed.mem_values_iff.2 ⟨name, found⟩) (h.dimension found)

theorem lookupDimension_eq_none_iff (h : s.Filed) {name : Alias} :
    s.lookupDimension name = none ↔
      ∀ d, s.Holds (.dimension d) → ∀ f ∈ d.fields, f.name ≠ name := by
  rw [lookupDimension, List.findSome?_eq_none_iff]
  refine forall₂_congr fun d held => ?_
  obtain ⟨key, found⟩ := Option.isSome_iff_exists.1 (h.keyed (t := .dimension d) held)
  have offers : d.lookup? name = (d.field? name).map fun f => ⟨d, f, key⟩ := by
    rw [DimensionTable.lookup?, found]
    cases d.field? name <;> rfl
  rw [offers, Option.map_eq_none_iff, DimensionTable.field?_eq_none_iff]
  simp

/-- A table is accepted exactly if it agrees with those that are there. -/
theorem add_eq_ok_iff (h : s.Filed) :
    s.add t = .ok s' ↔ t.HasKey ∧ (∀ u, s.Holds u → u.Agree t) ∧ s' = s.put t := by
  cases t with
  | fact t =>
      rw [add, addFact_eq_ok_iff, factFault?_eq_none_iff, h.isTaken_eq_false_iff]
      constructor
      · rintro ⟨⟨free, oneBase⟩, rfl⟩
        refine ⟨trivial, fun u held => ⟨free u held, ?_⟩, rfl⟩
        cases u with
        | fact u =>
            rintro ⟨baseU, baseT⟩
            simp [oneBase baseT u held] at baseU
        | dimension u => trivial
      · rintro ⟨-, agree, rfl⟩
        refine ⟨⟨fun u held => (agree u held).1, fun base u held => ?_⟩, rfl⟩
        exact Bool.eq_false_iff.2 fun baseU => (agree (.fact u) held).2 ⟨baseU, base⟩
  | dimension t =>
      rw [add, addDimension_eq_ok_iff, dimensionFault?_eq_none_iff, h.isTaken_eq_false_iff,
        exposedFault?_eq_none_iff]
      constructor
      · rintro ⟨⟨free, keyed, fresh⟩, rfl⟩
        refine ⟨keyed, fun u held => ⟨free u held, ?_⟩, rfl⟩
        cases u with
        | fact u => trivial
        | dimension u =>
            exact fun f inU g inT => h.lookupDimension_eq_none_iff.1 (fresh g inT) u held f inU
      · rintro ⟨keyed, agree, rfl⟩
        refine ⟨⟨fun u held => (agree u held).1, keyed, fun g inT => ?_⟩, rfl⟩
        exact h.lookupDimension_eq_none_iff.2 fun u held f inU =>
          (agree (.dimension u) held).2 f inU g inT

theorem holds_put_iff (h : s.Filed) (free : ∀ u, s.Holds u → u.name ≠ t.name) :
    (s.put t).Holds u ↔ u = t ∨ s.Holds u := by
  obtain ⟨noFact, noDimension⟩ :=
    Schema.isTaken_eq_false_iff.1 (h.isTaken_eq_false_iff.2 free)
  rw [Keyed.contains_eq_false_iff] at noFact noDimension
  cases t with
  | fact t =>
      cases u with
      | fact u => exact (Keyed.mem_values_insert_iff noFact).trans (by simp [Holds])
      | dimension u => simp [Schema.put, Holds]
  | dimension t =>
      cases u with
      | fact u => simp [Schema.put, Holds]
      | dimension u => exact (Keyed.mem_values_insert_iff noDimension).trans (by simp [Holds])

theorem put (h : s.Filed) (keyed : t.HasKey) : (s.put t).Filed := by
  cases t with
  | fact t =>
      refine { h with fact := fun {name u} found => ?_, keyed := fun {u} held => ?_ }
      · rw [Schema.put, Keyed.get?_insert] at found
        split at found
        · next same => rw [← Option.some.inj found, same]
        · exact h.fact found
      · cases u with
        | fact u => trivial
        | dimension u => exact h.keyed (t := .dimension u) held
  | dimension t =>
      refine { h with dimension := fun {name u} found => ?_, keyed := fun {u} held => ?_ }
      · rw [Schema.put, Keyed.get?_insert] at found
        split at found
        · next same => rw [← Option.some.inj found, same]
        · exact h.dimension found
      · cases u with
        | fact u => trivial
        | dimension u =>
            rcases Keyed.eq_or_mem_of_mem_values_insert held with rfl | old
            · exact keyed
            · exact h.keyed (t := .dimension u) old

/-- Tables are accepted one after another exactly if each two of them agree, and agree with those
that are there. -/
theorem addAll_eq_ok_iff (h : s.Filed) {tables : List Table} :
    s.addAll tables = .ok s' ↔
      (∀ t ∈ tables, t.HasKey) ∧ (∀ t ∈ tables, ∀ u, s.Holds u → u.Agree t) ∧
        tables.Pairwise Table.Agree ∧ s' = tables.foldl Schema.put s := by
  induction tables generalizing s with
  | nil =>
      show Except.ok s = .ok s' ↔ _
      simp [eq_comm]
  | cons t rest ih =>
      have step : s.addAll (t :: rest) = .ok s' ↔
          ∃ s₁, s.add t = .ok s₁ ∧ s₁.addAll rest = .ok s' := by
        rw [addAll, List.foldlM_cons]
        cases s.add t with
        | error => exact iff_of_false nofun fun ⟨_, accepted, _⟩ => nomatch accepted
        | ok s₁ =>
            show s₁.addAll rest = .ok s' ↔ _
            simp
      rw [step]
      constructor
      · rintro ⟨s₁, accepted, later⟩
        obtain ⟨keyed, agree, rfl⟩ := h.add_eq_ok_iff.1 accepted
        obtain ⟨keyedRest, agreeRest, pairwise, rfl⟩ := (ih (h.put keyed)).1 later
        have held : ∀ {u}, (s.put t).Holds u ↔ u = t ∨ s.Holds u :=
          h.holds_put_iff fun u heldU => (agree u heldU).1
        refine ⟨List.forall_mem_cons.2 ⟨keyed, keyedRest⟩, List.forall_mem_cons.2 ⟨agree, ?_⟩,
          List.pairwise_cons.2 ⟨?_, pairwise⟩, rfl⟩
        · exact fun u listed v heldV => agreeRest u listed v (held.2 (.inr heldV))
        · exact fun u listed => agreeRest u listed t (held.2 (.inl rfl))
      · rintro ⟨keyed, agree, pairwise, rfl⟩
        obtain ⟨keyedT, keyedRest⟩ := List.forall_mem_cons.1 keyed
        obtain ⟨agreeT, agreeRest⟩ := List.forall_mem_cons.1 agree
        obtain ⟨first, pairwise⟩ := List.pairwise_cons.1 pairwise
        have held : ∀ {u}, (s.put t).Holds u ↔ u = t ∨ s.Holds u :=
          h.holds_put_iff fun u heldU => (agreeT u heldU).1
        refine ⟨s.put t, h.add_eq_ok_iff.2 ⟨keyedT, agreeT, rfl⟩,
          (ih (h.put keyedT)).2 ⟨keyedRest, ?_, pairwise, rfl⟩⟩
        intro u listed v heldV
        rcases held.1 heldV with rfl | heldV
        · exact first u listed
        · exact agreeRest u listed v heldV

end Filed

/-- Tables are accepted in one order exactly if they are accepted in another, and the schema that
comes out is the same. -/
theorem addAll_perm {tables tables' : List Table} (perm : tables.Perm tables') :
    empty.addAll tables = .ok s ↔ empty.addAll tables' = .ok s := by
  have pairwise : tables.Pairwise Table.Agree ↔ tables'.Pairwise Table.Agree :=
    perm.pairwise_iff Table.Agree.symm
  have same : tables.Pairwise Table.Agree → tables.foldl put empty = tables'.foldl put empty := by
    intro agree
    refine perm.foldl_eq' (fun t inT u inU s => ?_) empty
    by_cases alike : t = u
    · rw [alike]
    · exact put_comm s (agree.forall inT inU alike).1
  simp only [filed_empty.addAll_eq_ok_iff, perm.mem_iff, ← pairwise]
  refine and_congr_right fun _ => and_congr_right fun _ => and_congr_right fun agree => ?_
  rw [same agree]

end Schema

end StarPlan
