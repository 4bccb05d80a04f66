import Mathlib.Data.List.Perm.Subperm
import StarPlan.Proofs.Schema.Consistent

/-!
# Fields are judged by the rules alone

A table judges each field that is offered to it against those that it has, in a chain of checks.
Still, whether a list of fields is accepted does not depend on its order, nor on what was offered
and refused in between: all fields of a list are accepted exactly if the list obeys the rules
(`DimensionTable.FieldRules`, `FactTable.FieldRules`), which mention neither tables nor calls.

A call decides whether the rules still hold with one more field (`Enforces`), for either kind of
table. What obeys the rules does so in part and in any order, so lists are settled by induction
over the calls, once for both kinds: `Enforces.judgedBy`. The result is `fields_judged_by_rules`.
-/

namespace StarPlan

/-! ## Offering fields one after another -/

section Offering

variable {τ φ : Type} (offer : τ → φ → Offer τ)

/-- The table that is left when fields were offered, whether or not they were accepted. -/
def afterOffers (t : τ) (fields : List φ) : τ :=
  fields.foldl (fun t f => (offer t f).left) t

/-- What is answered to each of the fields that are offered: the fault for which it is refused,
and nothing where it is accepted. -/
def verdicts (t : τ) : List φ → List (Option SchemaFault)
  | [] => []
  | f :: rest => (offer t f).fault? :: verdicts (offer t f).left rest

/-- None of the fields that are offered is refused. -/
def AllAccepted (t : τ) (fields : List φ) : Prop :=
  ∀ verdict ∈ verdicts offer t fields, verdict = none

/-- The fields of a list are judged by rules when they are offered one after another. -/
structure JudgedBy (fieldsOf : τ → List φ) (Rules : List φ → Prop) (t : τ) (fields : List φ) :
    Prop where
  /-- All are accepted exactly if the list obeys the rules. -/
  accepted : AllAccepted offer t fields ↔ Rules fields
  kept : AllAccepted offer t fields → fieldsOf (afterOffers offer t fields) = fields
  permuted : AllAccepted offer t fields → ∀ other, other.Perm fields → AllAccepted offer t other
  /-- Among others, a field is accepted exactly if it obeys the rules together with what was
  accepted before it. -/
  judged : ∀ front f back, fields = front ++ f :: back →
    ((offer (afterOffers offer t front) f).fault? = none ↔
      Rules (fieldsOf (afterOffers offer t front) ++ [f]))
  /-- After a refusal, the fields are judged as if the call had not been made. -/
  refused : ∀ front f back fault, fields = front ++ f :: back →
    (offer (afterOffers offer t front) f).fault? = some fault →
      ∃ rest, verdicts offer t fields = verdicts offer t front ++ some fault :: rest ∧
        verdicts offer t (front ++ back) = verdicts offer t front ++ rest ∧
        afterOffers offer t fields = afterOffers offer t (front ++ back)

variable {offer} {t : τ} {f : φ}

theorem afterOffers_cons (f : φ) (rest : List φ) :
    afterOffers offer t (f :: rest) = afterOffers offer (offer t f).left rest := rfl

theorem afterOffers_append (front back : List φ) :
    afterOffers offer t (front ++ back) = afterOffers offer (afterOffers offer t front) back :=
  List.foldl_append

theorem verdicts_append (front back : List φ) :
    verdicts offer t (front ++ back) =
      verdicts offer t front ++ verdicts offer (afterOffers offer t front) back := by
  induction front generalizing t with
  | nil => rfl
  | cons f rest ih =>
      rw [List.cons_append, verdicts, verdicts, afterOffers_cons, ih, List.cons_append]

theorem allAccepted_cons_iff {rest : List φ} :
    AllAccepted offer t (f :: rest) ↔
      (offer t f).fault? = none ∧ AllAccepted offer (offer t f).left rest := by
  rw [AllAccepted, verdicts, List.forall_mem_cons, AllAccepted]

end Offering

/-! ## Rules that calls enforce -/

/-- A call appends a field exactly if the rules go on to hold, and else changes nothing. They are
about lists of fields as collections: what holds of a list holds of each part of it, in whatever
order. -/
structure Enforces {τ φ : Type} (offer : τ → φ → Offer τ) (fieldsOf : τ → List φ)
    (Rules : List φ → Prop) : Prop where
  nil : Rules []
  subperm : ∀ {l l' : List φ}, l'.Subperm l → Rules l → Rules l'
  accepts_iff : ∀ {t f}, Rules (fieldsOf t) →
    ((offer t f).fault? = none ↔ Rules (fieldsOf t ++ [f]))
  appends : ∀ {t f}, (offer t f).fault? = none → fieldsOf (offer t f).left = fieldsOf t ++ [f]
  refuses : ∀ {t f}, (offer t f).fault? ≠ none → (offer t f).left = t

namespace Enforces

variable {τ φ : Type} {offer : τ → φ → Offer τ} {fieldsOf : τ → List φ}
  {Rules : List φ → Prop} {t : τ} {f : φ}

/-- Whether or not a field is accepted, the table that is left obeys the rules. -/
theorem rules_left (h : Enforces offer fieldsOf Rules) (rules : Rules (fieldsOf t)) (f : φ) :
    Rules (fieldsOf (offer t f).left) := by
  by_cases accepted : (offer t f).fault? = none
  · rw [h.appends accepted]
    exact (h.accepts_iff rules).1 accepted
  · rw [h.refuses accepted]
    exact rules

/-- Whatever is offered, what is kept obeys the rules. -/
theorem rules_afterOffers (h : Enforces offer fieldsOf Rules) (fields : List φ)
    (rules : Rules (fieldsOf t)) : Rules (fieldsOf (afterOffers offer t fields)) :=
  List.foldlRecOn fields (fun t f => (offer t f).left) (motive := fun t => Rules (fieldsOf t)) rules
    fun _ rules f _ => h.rules_left rules f

theorem allAccepted_iff (h : Enforces offer fieldsOf Rules) (fields : List φ)
    (rules : Rules (fieldsOf t)) : AllAccepted offer t fields ↔ Rules (fieldsOf t ++ fields) := by
  induction fields generalizing t with
  | nil =>
      rw [List.append_nil]
      exact iff_of_true (fun _ listed => absurd listed List.not_mem_nil) rules
  | cons f rest ih =>
      rw [allAccepted_cons_iff, List.append_cons]
      constructor
      · rintro ⟨accepted, later⟩
        rw [← h.appends accepted]
        exact (ih (h.rules_left rules f)).1 later
      · intro all
        have first : Rules (fieldsOf t ++ [f]) :=
          h.subperm (List.sublist_append_left _ _).subperm all
        have accepted := (h.accepts_iff rules).2 first
        rw [← h.appends accepted] at all
        exact ⟨accepted, (ih (h.rules_left rules f)).2 all⟩

theorem fieldsOf_afterOffers (h : Enforces offer fieldsOf Rules) {fields : List φ}
    (accepted : AllAccepted offer t fields) :
    fieldsOf (afterOffers offer t fields) = fieldsOf t ++ fields := by
  induction fields generalizing t with
  | nil => exact (List.append_nil _).symm
  | cons f rest ih =>
      obtain ⟨first, later⟩ := allAccepted_cons_iff.1 accepted
      rw [afterOffers_cons, ih later, h.appends first, List.append_assoc, List.singleton_append]

theorem judgedBy (h : Enforces offer fieldsOf Rules) (new : fieldsOf t = []) (fields : List φ) :
    JudgedBy offer fieldsOf Rules t fields := by
  have rules : Rules (fieldsOf t) := new ▸ h.nil
  have accepted : ∀ fields, AllAccepted offer t fields ↔ Rules fields := by
    intro fields
    rw [h.allAccepted_iff fields rules, new, List.nil_append]
  refine ⟨accepted fields, ?_, ?_, ?_, ?_⟩
  · intro all
    rw [h.fieldsOf_afterOffers all, new, List.nil_append]
  · intro all other perm
    exact (accepted other).2 (h.subperm perm.subperm ((accepted fields).1 all))
  · rintro front f back rfl
    exact h.accepts_iff (h.rules_afterOffers front rules)
  · rintro front f back fault rfl refused
    have unchanged : (offer (afterOffers offer t front) f).left = afterOffers offer t front :=
      h.refuses (refused ▸ Option.some_ne_none fault)
    refine ⟨verdicts offer (afterOffers offer t front) back, ?_, verdicts_append front back, ?_⟩
    · rw [verdicts_append, verdicts, refused, unchanged]
    · rw [afterOffers_append, afterOffers_append, afterOffers_cons, unchanged]

end Enforces

/-! ## The rules of either kind of table -/

/-- A fresh name joins distinct names. -/
private theorem nodup_map_concat_iff {α β : Type} {nameOf : α → β} {l : List α} {a : α}
    (distinct : (l.map nameOf).Nodup) :
    ((l ++ [a]).map nameOf).Nodup ↔ nameOf a ∉ l.map nameOf := by
  rw [List.map_append, List.map_singleton, ← List.concat_eq_append, List.nodup_concat]
  exact and_iff_left distinct

private theorem nodup_map_of_subperm {α β : Type} {nameOf : α → β} {l l' : List α}
    (part : l'.Subperm l) (distinct : (l.map nameOf).Nodup) : (l'.map nameOf).Nodup := by
  obtain ⟨m, order, sub⟩ := part
  exact (order.map nameOf).nodup_iff.1 (distinct.sublist (sub.map nameOf))

/-- The rules for the fields of a dimension table. -/
structure DimensionTable.FieldRules (fields : List DimensionField) : Prop where
  kinds : ∀ f ∈ fields, f.kind ≠ .value
  aliases : (fields.map (·.name)).Nodup
  oneKey : (fields.filter DimensionField.isKey).length ≤ 1
  keys : ∀ f ∈ fields, f.kind = .serviceKey → f.frontName = none ∧ f.countsByKey = false
  attributes : ∀ f ∈ fields, f.kind = .dimension → f.frontName.isSome = true

/-- The rules for the fields of a fact table. -/
structure FactTable.FieldRules (fields : List FactField) : Prop where
  aliases : (fields.map (·.name)).Nodup
  keys : ∀ f ∈ fields, f.kind = .serviceKey → f.frontName = none ∧ f.calculation = none
  others : ∀ f ∈ fields, f.kind ≠ .serviceKey →
    f.frontName.isSome = true ∨ f.calculation.isSome = true
  following : ∀ f ∈ fields, f.following.isSome = true → f.calculation.isSome = true

theorem DimensionField.isKey_iff {f : DimensionField} : f.isKey = true ↔ f.kind = .serviceKey :=
  beq_iff_eq

theorem FactField.isKey_iff {f : FactField} : f.isKey = true ↔ f.kind = .serviceKey :=
  beq_iff_eq

namespace DimensionTable

variable {t : DimensionTable} {f : DimensionField}

theorem serviceKey?_eq_none_iff :
    t.serviceKey? = none ↔ t.fields.filter DimensionField.isKey = [] := by
  rw [serviceKey?, List.find?_eq_none, List.filter_eq_nil_iff]

/-- A further field leaves at most one key exactly if it is no key or the first. -/
theorem length_filter_isKey_concat_iff (one : (t.fields.filter DimensionField.isKey).length ≤ 1) :
    ((t.fields ++ [f]).filter DimensionField.isKey).length ≤ 1 ↔
      (f.isKey = true → t.serviceKey? = none) := by
  rw [List.filter_append, List.length_append, serviceKey?_eq_none_iff, ← List.length_eq_zero_iff]
  cases key : f.isKey <;> simp [key, one]

/-- The checks of a call amount to the rules for the fields with the new one among them. -/
theorem fault?_eq_none_iff_fieldRules (rules : FieldRules t.fields) :
    t.fault? f = none ↔ FieldRules (t.fields ++ [f]) := by
  rw [fault?_eq_none_iff, field?_eq_none_iff]
  constructor
  · rintro ⟨kind, fresh, key, named⟩
    refine ⟨?_, (nodup_map_concat_iff rules.aliases).2 fresh,
      (length_filter_isKey_concat_iff rules.oneKey).2 fun isKey => (key isKey).2.2, ?_, ?_⟩
    · exact List.forall_mem_append.2 ⟨rules.kinds, List.forall_mem_singleton.2 kind⟩
    · refine List.forall_mem_append.2 ⟨rules.keys, List.forall_mem_singleton.2 fun isKey => ?_⟩
      obtain ⟨unnamed, uncounted, -⟩ := key (DimensionField.isKey_iff.2 isKey)
      exact ⟨unnamed, uncounted⟩
    · refine List.forall_mem_append.2 ⟨rules.attributes, List.forall_mem_singleton.2 fun kind => ?_⟩
      exact named (by rw [DimensionField.isKey, kind]; rfl)
  · intro all
    have listed : f ∈ t.fields ++ [f] := List.mem_append_right _ (List.mem_singleton_self f)
    refine ⟨all.kinds f listed, (nodup_map_concat_iff rules.aliases).1 all.aliases, ?_, ?_⟩
    · intro isKey
      obtain ⟨unnamed, uncounted⟩ := all.keys f listed (DimensionField.isKey_iff.1 isKey)
      have alone := (length_filter_isKey_concat_iff rules.oneKey).1 all.oneKey isKey
      exact ⟨unnamed, uncounted, alone⟩
    · intro notKey
      refine all.attributes f listed ?_
      -- A field that is neither a value nor a key is an attribute.
      cases kind : f.kind with
      | serviceKey => rw [DimensionField.isKey_iff.2 kind] at notKey; cases notKey
      | dimension => rfl
      | value => exact absurd kind (all.kinds f listed)

theorem enforces_fieldRules : Enforces offer DimensionTable.fields FieldRules where
  nil := ⟨by simp, .nil, Nat.zero_le 1, by simp, by simp⟩
  subperm part rules :=
    { kinds := fun f listed => rules.kinds f (part.subset listed)
      aliases := nodup_map_of_subperm part rules.aliases
      oneKey := Nat.le_trans (part.filter _).length_le rules.oneKey
      keys := fun f listed => rules.keys f (part.subset listed)
      attributes := fun f listed => rules.attributes f (part.subset listed) }
  accepts_iff rules := by
    rw [offer_accepts_iff]
    exact fault?_eq_none_iff_fieldRules rules
  appends := fields_of_accepted
  refuses := left_of_refused

end DimensionTable

namespace FactTable

variable {t : FactTable} {f : FactField}

/-- The checks of a call amount to the rules for the fields with the new one among them. -/
theorem fault?_eq_none_iff_fieldRules (rules : FieldRules t.fields) :
    t.fault? f = none ↔ FieldRules (t.fields ++ [f]) := by
  rw [fault?_eq_none_iff, field?_eq_none_iff]
  constructor
  · rintro ⟨fresh, key, other, following⟩
    refine ⟨(nodup_map_concat_iff rules.aliases).2 fresh, ?_, ?_, ?_⟩
    · refine List.forall_mem_append.2 ⟨rules.keys, List.forall_mem_singleton.2 fun isKey => ?_⟩
      exact key (FactField.isKey_iff.2 isKey)
    · refine List.forall_mem_append.2 ⟨rules.others, List.forall_mem_singleton.2 fun kind => ?_⟩
      have notKey : f.isKey = false := Bool.eq_false_iff.2 (mt FactField.isKey_iff.1 kind)
      cases calculation : f.calculation with
      | none => exact .inl (other notKey calculation)
      | some => exact .inr rfl
    · refine List.forall_mem_append.2
        ⟨rules.following, List.forall_mem_singleton.2 fun follows => ?_⟩
      refine Option.isSome_iff_ne_none.2 fun plain => ?_
      rw [following plain] at follows
      cases follows
  · intro all
    have listed : f ∈ t.fields ++ [f] := List.mem_append_right _ (List.mem_singleton_self f)
    refine ⟨(nodup_map_concat_iff rules.aliases).1 all.aliases, ?_, ?_, ?_⟩
    · exact fun isKey => all.keys f listed (FactField.isKey_iff.1 isKey)
    · intro notKey plain
      have kind : f.kind ≠ .serviceKey := mt FactField.isKey_iff.2 (Bool.eq_false_iff.1 notKey)
      refine (all.others f listed kind).resolve_right fun calculated => ?_
      rw [plain] at calculated
      cases calculated
    · intro plain
      refine Option.not_isSome_iff_eq_none.1 fun follows => ?_
      have calculated := all.following f listed follows
      rw [plain] at calculated
      cases calculated

theorem enforces_fieldRules : Enforces offer FactTable.fields FieldRules where
  nil := ⟨.nil, by simp, by simp, by simp⟩
  subperm part rules :=
    { aliases := nodup_map_of_subperm part rules.aliases
      keys := fun f listed => rules.keys f (part.subset listed)
      others := fun f listed => rules.others f (part.subset listed)
      following := fun f listed => rules.following f (part.subset listed) }
  accepts_iff rules := by
    rw [offer_accepts_iff]
    exact fault?_eq_none_iff_fieldRules rules
  appends := fields_of_accepted
  refuses := left_of_refused

end FactTable

/-- Whatever list of fields is offered to a new table of either kind, the rules decide. -/
theorem fields_judged_by_rules (name : TableName) :
    (∀ fields, JudgedBy DimensionTable.offer DimensionTable.fields DimensionTable.FieldRules
        (.new name) fields) ∧
      ∀ isBase fields, JudgedBy FactTable.offer FactTable.fields FactTable.FieldRules
        ⟨name, isBase, []⟩ fields :=
  ⟨DimensionTable.enforces_fieldRules.judgedBy rfl,
    fun _ => FactTable.enforces_fieldRules.judgedBy rfl⟩

/-- A second key is refused, and its alias stays free. -/
example :
    verdicts DimensionTable.offer (.new "shop.dim_game")
        [.serviceKey "sk_game" "game_key", .serviceKey "sk_title" "game",
          .named "title" "game" "Game"] =
      [none, some (.dimensionField .secondKey "game" "shop.dim_game"), none] := by
  decide

end StarPlan
