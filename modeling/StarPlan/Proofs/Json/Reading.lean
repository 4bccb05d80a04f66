import StarPlan.Proofs.Json.Written

/-!
# What readers make of written values

`Value.Gives` says that a reader takes a result from the text of a value; no document is named.
Readers are built like the values they read, and there is one lemma for each way of building
them: a text, a reader that goes on with what it took, an array of entries that are read alike,
and an object whose members are read one after another (`MembersGive`).
-/

namespace StarPlan.Json

/-- Reading the text of the value gives the result. -/
def Value.Gives {α : Type} (v : Value) (read : Doc → Reading α) (a : α) : Prop :=
  ∃ d, v.WrittenAs d ∧ read d = .ok a

/-- Reading the text of the members, one after another into a growing result, goes from one
result to another. -/
inductive MembersGive {σ : Type} (read : String → Doc → σ → Reading σ) :
    List (String × Value) → σ → σ → Prop where
  | last {key : String} {v : Value} {s s' : σ} (h : v.Gives (read key · s) s') :
    MembersGive read [(key, v)] s s'
  | more {key : String} {v : Value} {m : String × Value} {ms : List (String × Value)}
    {s s' s'' : σ} (h : v.Gives (read key · s) s') (tail : MembersGive read (m :: ms) s' s'') :
    MembersGive read ((key, v) :: m :: ms) s s''

section

variable {α β σ : Type} {v : Value} {read : Doc → Reading α} {a : α}

theorem Value.Gives.readText (h : v.Gives read a) : readText read v.render = .ok a := by
  obtain ⟨d, written, result⟩ := h
  rw [readText_render read written, result]

theorem Value.Gives.text (s : String) : (Value.text s).Gives Doc.asText s :=
  ⟨_, .text s, RawText.read_written s⟩

theorem Value.Gives.bind (h : v.Gives read a) {next : α → Reading β} {b : β}
    (goes : next a = .ok b) : v.Gives (fun d => read d >>= next) b := by
  obtain ⟨d, written, result⟩ := h
  refine ⟨d, written, ?_⟩
  show read d >>= next = _
  rw [result]
  exact goes

/-- An array of entries gives what the entries give. -/
theorem Value.Gives.array {entry : α → Value} (each : ∀ a, (entry a).Gives read a) (l : List α) :
    (Value.array (l.map entry)).Gives (Doc.asList read) l := by
  have items : ∀ a l, ∃ items, Items.Written ((a :: l).map entry) items ∧
      items.readAll read = .ok (a :: l) := by
    intro a l
    induction l generalizing a with
    | nil =>
        obtain ⟨d, written, result⟩ := each a
        refine ⟨_, .last written, ?_⟩
        rw [Items.readAll, result]
        rfl
    | cons b rest ih =>
        obtain ⟨d, written, result⟩ := each a
        obtain ⟨items, tail, results⟩ := ih b
        refine ⟨_, .more written tail, ?_⟩
        rw [Items.readAll, result, results]
        rfl
  cases l with
  | nil => exact ⟨_, .emptyArray, rfl⟩
  | cons a rest =>
      obtain ⟨items, written, results⟩ := items a rest
      exact ⟨_, .array written, results⟩

theorem Members.readInto_member {read : String → Doc → σ → Reading σ} {key : String} {d : Doc}
    {s s' : σ} (result : read key d s = .ok s') (tail : Members) :
    (Members.member (.written key) d tail).readInto read s = tail.readInto read s' := by
  rw [readInto, RawText.read_written]
  show read key d s >>= tail.readInto read = _
  rw [result]
  rfl

/-- An object gives what its members make of the result so far. -/
theorem MembersGive.exists_members {read : String → Doc → σ → Reading σ}
    {ms : List (String × Value)} {s s' : σ} (h : MembersGive read ms s s') :
    ∃ members, Members.Written ms members ∧ members.readInto read s = .ok s' := by
  induction h with
  | last h =>
      obtain ⟨d, written, result⟩ := h
      exact ⟨_, .last _ written, Members.readInto_member result _⟩
  | more h _ ih =>
      obtain ⟨d, written, result⟩ := h
      obtain ⟨members, tail, results⟩ := ih
      exact ⟨_, .more _ written tail, (Members.readInto_member result _).trans results⟩

end

end StarPlan.Json
