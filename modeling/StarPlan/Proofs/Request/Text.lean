import StarPlan.Proofs.Json.Reading
import StarPlan.Request.Text

/-!
# Requests come back from their text

A request is written under the first name of each section and member, its calculations and
comparisons by their names. All of these are among the names that are read, each for itself and
nothing else, so the text of a request gives the request, whatever the aliases and conditions
are. `Request.ofText_toText` adds that only the validity of what is asked for then decides
whether it is accepted.
-/

namespace StarPlan

open Json

theorem Calculation.ofText_name (c : Calculation) : Calculation.ofText c.name = .ok c := by
  have named : Calculation.ofText? c.name = some c := by
    cases c <;> decide +kernel
  -- Unfolded by `delta`, since the equation of `ofText` takes long to prove.
  delta ofText
  rw [named]

theorem Comparison.ofText_sql (op : Comparison) : Comparison.ofText op.sql = .ok op := by
  have spelled : Comparison.ofText? op.sql = some op := by
    cases op <;> decide +kernel
  delta ofText
  rw [spelled]

theorem Calculation.gives_name (c : Calculation) :
    (Value.text c.name).Gives Calculation.ofDoc c :=
  .bind (.text c.name) (by rw [ofText_name]; rfl)

theorem Comparison.gives_sql (op : Comparison) :
    (Value.text op.sql).Gives Comparison.ofDoc op :=
  .bind (.text op.sql) (by rw [ofText_sql]; rfl)

/-! The members of an entry. -/

namespace EntryDraft

theorem contains_spellings_iff (key other : EntryKey) :
    other.spellings.contains key.name = true ↔ other = key := by
  cases key <;> cases other <;> decide

theorem readMember_name {keys : List EntryKey} {key : EntryKey} {e : EntryDraft}
    (listed : key ∈ keys) (fresh : e.has key = false) (d : Doc) :
    readMember keys key.name d e = e.set key d := by
  have found : keys.find? (fun other => other.spellings.contains key.name) = some key := by
    cases search : keys.find? (fun other => other.spellings.contains key.name) with
    | none =>
        have unread := List.find?_eq_none.1 search key listed
        exact absurd ((contains_spellings_iff key key).2 rfl) unread
    | some other =>
        have reads := List.find?_some search
        rw [(contains_spellings_iff key other).1 reads]
  rw [readMember, found]
  show (if e.has key = true then _ else _) = _
  rw [fresh, if_neg Bool.false_ne_true]

theorem gives_member {keys : List EntryKey} {key : EntryKey} {e e' : EntryDraft} {v : Value}
    (listed : key ∈ keys) (fresh : e.has key = false) (h : v.Gives (e.set key) e') :
    v.Gives (readMember keys key.name · e) e' := by
  have same : (readMember keys key.name · e) = e.set key :=
    funext (readMember_name listed fresh)
  rwa [same]

theorem gives_condition (text : String) : (Value.text text).Gives readCondition text := by
  refine ⟨_, .text text, ?_⟩
  rw [readCondition, Doc.value, RawText.read_written]
  rfl

theorem set_field (e : EntryDraft) (field : Alias) :
    (Value.text field).Gives (e.set .field) { e with field := some field } :=
  .bind (.text field) rfl

theorem set_calculation (e : EntryDraft) (c : Calculation) :
    (Value.text c.name).Gives (e.set .calculation) { e with calculation := some c } :=
  .bind c.gives_name rfl

theorem set_op (e : EntryDraft) (op : Comparison) :
    (Value.text op.sql).Gives (e.set .op) { e with op := some op } :=
  .bind op.gives_sql rfl

theorem set_condition (e : EntryDraft) (text : String) :
    (Value.text text).Gives (e.set .condition) { e with condition := some text } :=
  .bind (gives_condition text) rfl

end EntryDraft

theorem EntryShape.gives_object (s : EntryShape) {ms : List (String × Value)} {e : EntryDraft}
    (h : MembersGive (EntryDraft.readMember s.keys) ms .empty e) :
    (Value.object ms).Gives s.read e := by
  obtain ⟨members, written, result⟩ := h.exists_members
  exact ⟨_, .object written, result⟩

namespace Request

open EntryDraft

theorem gives_selectEntry (field : Alias) : (selectEntry field).Gives readSelect field := by
  have entry : (selectEntry field).Gives EntryShape.select.read
      ⟨some field, none, none, none⟩ :=
    EntryShape.gives_object _ (.last (gives_member (by decide) rfl (set_field _ field)))
  exact .bind entry rfl

theorem gives_aggregateEntry (item : AggregateItem) :
    (aggregateEntry item).Gives AggregateItem.ofDoc item := by
  have entry : (aggregateEntry item).Gives EntryShape.aggregate.read
      ⟨some item.field, some item.calculation, none, none⟩ :=
    EntryShape.gives_object _ (.more (gives_member (by decide) rfl (set_field _ item.field))
      (.last (gives_member (by decide) rfl (set_calculation _ item.calculation))))
  exact .bind entry rfl

theorem gives_filterEntry (item : FilterItem) :
    (filterEntry item).Gives FilterItem.ofDoc item := by
  have entry : (filterEntry item).Gives EntryShape.filter.read
      ⟨some item.field, none, some item.op, some item.condition⟩ :=
    EntryShape.gives_object _ (.more (gives_member (by decide) rfl (set_field _ item.field))
      (.more (gives_member (by decide) rfl (set_op _ item.op))
        (.last (gives_member (by decide) rfl (set_condition _ item.condition)))))
  exact .bind entry rfl

end Request

/-! The sections of a request. -/

namespace RequestDraft

theorem ofKey?_name (s : Section) : Section.ofKey? s.name = some s := by
  cases s <;> decide

theorem gives_section {s : Section} {r r' : RequestDraft} {v : Value} (fresh : r.has s = false)
    (h : v.Gives (r.set s) r') : v.Gives (readMember s.name · r) r' := by
  have same : (readMember s.name · r) = r.set s := by
    funext d
    rw [readMember, ofKey?_name]
    show (if r.has s = true then _ else _) = _
    rw [fresh, if_neg Bool.false_ne_true]
  rwa [same]

theorem set_select (r : RequestDraft) (l : List Alias) :
    (Value.array (l.map Request.selectEntry)).Gives (r.set .select) { r with select := some l } :=
  .bind (.array Request.gives_selectEntry l) rfl

theorem set_aggregate (r : RequestDraft) (l : List AggregateItem) :
    (Value.array (l.map Request.aggregateEntry)).Gives (r.set .aggregate)
      { r with aggregate := some l } :=
  .bind (.array Request.gives_aggregateEntry l) rfl

theorem set_filter (r : RequestDraft) (l : List FilterItem) :
    (Value.array (l.map Request.filterEntry)).Gives (r.set .filter) { r with filter := some l } :=
  .bind (.array Request.gives_filterEntry l) rfl

end RequestDraft

namespace Request

open RequestDraft

theorem gives_toJson (r : Request) : r.toJson.Gives Request.ofDoc r := by
  have sections : MembersGive RequestDraft.readMember _ .empty
      ⟨some r.select, some r.aggregate, some r.filter⟩ :=
    .more (gives_section rfl (set_select _ r.select))
      (.more (gives_section rfl (set_aggregate _ r.aggregate))
        (.last (gives_section rfl (set_filter _ r.filter))))
  obtain ⟨members, written, result⟩ := sections.exists_members
  refine ⟨_, .object written, ?_⟩
  rw [ofDoc, result]
  rfl

/-- Reading the text of a request gives the request if it is valid, and the fault that makes it
invalid otherwise. -/
theorem ofText_toText (r : Request) :
    Request.ofText r.toText =
      match r.validate with
      | .ok () => .ok r
      | .error fault => .error (.request fault) := by
  rw [ofText, toText, r.gives_toJson.readText]
  dsimp only
  cases r.validate <;> rfl

end Request

end StarPlan
