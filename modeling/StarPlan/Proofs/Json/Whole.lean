import StarPlan.Proofs.Json.Grammar
import StarPlan.Proofs.Run

/-!
# Only whole documents are read

Readers take what they want in the order of the text and meet every break on the way, so a
reader that gives a result was given a whole document, skipped parts included. `ReadsWhole` says
so of a reader, with one lemma for each way of building readers.
-/

namespace StarPlan.Json

/-! Strings. -/

theorem broken_of_pairUnits {broken : Option Break} {ps : List Piece} {cs : List Char}
    (read : pairUnits broken ps = .ok cs) : broken = none := by
  fun_induction pairUnits broken ps generalizing cs with
  | case1 none => exact none
  | case3 _ _ ih | case5 _ _ _ _ _ _ ih | case9 _ _ _ _ ih =>
      obtain ⟨_, later, -⟩ := map_eq_ok_iff.1 read
      exact ih later
  | _ => cases read

theorem RawText.broken_of_read {raw : RawText} {s : String} (read : raw.read = .ok s) :
    raw.broken = none := by
  obtain ⟨cs, paired, -⟩ := map_eq_ok_iff.1 read
  exact broken_of_pairUnits paired

/-- A reader that gives a result for whole values only. -/
def ReadsWhole {α : Type} (read : Doc → Reading α) : Prop :=
  ∀ d a, read d = .ok a → d.Whole

section

variable {α β : Type} {read : Doc → Reading α}

theorem ReadsWhole.bind (h : ReadsWhole read) (next : α → Reading β) :
    ReadsWhole fun d => read d >>= next := by
  intro d b result
  obtain ⟨a, first, -⟩ := bind_eq_ok_iff.1 result
  exact h d a first

theorem Doc.not_mismatch (wanted : String) (d : Doc) {a : α}
    (result : d.mismatch wanted = .ok a) : False := by
  cases d with
  | number numeral =>
      obtain ⟨_, -, refused⟩ := bind_eq_ok_iff.1 result
      cases refused
  | text raw =>
      obtain ⟨_, -, refused⟩ := bind_eq_ok_iff.1 result
      cases refused
  | _ => cases result

theorem readsWhole_asText : ReadsWhole Doc.asText := by
  intro d s result
  cases d with
  | text raw => exact RawText.broken_of_read result
  | _ =>
      simp only [Doc.asText] at result
      exact (Doc.not_mismatch _ _ result).elim

theorem ReadsWhole.items (h : ReadsWhole read) {items : Items} {l : List α}
    (result : items.readAll read = .ok l) : items.Whole := by
  match items with
  | .done .closed => rfl
  | .done (.cut _ _) => cases result
  | .item head tail =>
      obtain ⟨a, first, later⟩ := bind_eq_ok_iff.1 result
      obtain ⟨rest, tailed, -⟩ := bind_eq_ok_iff.1 later
      exact ⟨h head a first, h.items tailed⟩

theorem ReadsWhole.asList (h : ReadsWhole read) : ReadsWhole (Doc.asList read) := by
  intro d l result
  cases d with
  | array items => exact h.items result
  | _ =>
      simp only [Doc.asList] at result
      exact (Doc.not_mismatch _ _ result).elim

end

/-- The members of an object that were read are whole. -/
theorem Members.whole_of_readInto {σ : Type} {read : String → Doc → σ → Reading σ}
    (h : ∀ name s, ReadsWhole (read name · s)) {members : Members} {s s' : σ}
    (result : members.readInto read s = .ok s') : members.Whole := by
  match members with
  | .done .closed => rfl
  | .done (.cut _ _) | .noKey _ _ => cases result
  | .member key value tail =>
      obtain ⟨name, named, later⟩ := bind_eq_ok_iff.1 result
      obtain ⟨s₁, first, rest⟩ := bind_eq_ok_iff.1 later
      exact ⟨RawText.broken_of_read named, h name s value s₁ first, whole_of_readInto h rest⟩

/-! Values that are skipped or read in full. -/

mutual

theorem Doc.skip_eq_ok_iff : (d : Doc) → (d.skip = .ok () ↔ d.Whole)
  | .null | .bool _ | .number _ => ⟨fun _ => trivial, fun _ => rfl⟩
  | .text raw => by
      rw [Doc.skip, Doc.Whole]
      cases raw.broken <;> simp [stop]
  | .array items => Items.skip_eq_ok_iff items
  | .object members => Members.skip_eq_ok_iff members
  | .missing | .cutNumber | .broken _ => ⟨nofun, nofun⟩

theorem Items.skip_eq_ok_iff : (items : Items) → (items.skip = .ok () ↔ items.Whole)
  | .done ending => by cases ending <;> simp [Items.skip, Items.Whole, stop]
  | .item head tail => by
      rw [Items.skip, bind_eq_ok_iff, Items.Whole, ← Doc.skip_eq_ok_iff head,
        ← Items.skip_eq_ok_iff tail]
      exact ⟨fun ⟨_, h⟩ => h, fun h => ⟨(), h⟩⟩

theorem Members.skip_eq_ok_iff : (members : Members) → (members.skip = .ok () ↔ members.Whole)
  | .done ending => by cases ending <;> simp [Members.skip, Members.Whole, stop]
  | .noKey _ _ => ⟨nofun, nofun⟩
  | .member key value tail => by
      rw [Members.skip, Members.Whole, ← Doc.skip_eq_ok_iff value, ← Members.skip_eq_ok_iff tail]
      cases key.broken with
      | none =>
          exact bind_eq_ok_iff.trans ⟨fun ⟨_, h⟩ => ⟨rfl, h⟩, fun h => ⟨(), h.2⟩⟩
      | some how => exact ⟨nofun, fun h => nomatch h.1⟩

end

mutual

theorem Doc.whole_of_value : (d : Doc) → (depth : Nat) → (v : Value) →
    d.value depth = .ok v → d.Whole
  | .null, _, _, _ | .bool _, _, _, _ | .number _, _, _, _ => trivial
  | .text raw, _, _, read => by
      obtain ⟨s, read, -⟩ := map_eq_ok_iff.1 read
      exact RawText.broken_of_read read
  | .array items, _, _, read => by
      obtain ⟨less, -, read⟩ := bind_eq_ok_iff.1 read
      obtain ⟨vs, read, -⟩ := bind_eq_ok_iff.1 read
      exact Items.whole_of_values items less vs read
  | .object members, _, _, read => by
      obtain ⟨less, -, read⟩ := bind_eq_ok_iff.1 read
      obtain ⟨vs, read, -⟩ := bind_eq_ok_iff.1 read
      exact Members.whole_of_values members less [] vs read

theorem Items.whole_of_values : (items : Items) → (depth : Nat) → (vs : List Value) →
    items.values depth = .ok vs → items.Whole
  | .done .closed, _, _, _ => rfl
  | .item head tail, depth, _, read => by
      obtain ⟨v, first, read⟩ := bind_eq_ok_iff.1 read
      obtain ⟨vs, later, -⟩ := bind_eq_ok_iff.1 read
      exact ⟨Doc.whole_of_value head depth v first, Items.whole_of_values tail depth vs later⟩

theorem Members.whole_of_values : (members : Members) → (depth : Nat) →
    (sofar vs : List (String × Value)) → members.values sofar depth = .ok vs → members.Whole
  | .done .closed, _, _, _, _ => rfl
  | .member key value tail, depth, sofar, vs, read => by
      obtain ⟨name, named, read⟩ := bind_eq_ok_iff.1 read
      obtain ⟨v, first, later⟩ := bind_eq_ok_iff.1 read
      exact ⟨RawText.broken_of_read named, Doc.whole_of_value value depth v first,
        Members.whole_of_values tail depth _ vs later⟩

end

/-! Items that are taken one by one. -/

theorem Items.whole_of_finish {items : Items} (done : items.finish = .ok ()) : items.Whole := by
  match items with
  | .done .closed => rfl
  | .done (.cut true _) | .done (.cut false _) | .item .. => cases done

theorem Items.next?_eq_some {items rest : Items} {d : Doc}
    (next : items.next? = .ok (some (d, rest))) : items = .item d rest := by
  match items with
  | .done .closed | .done (.cut _ _) => cases next
  | .item head tail =>
      obtain ⟨rfl, rfl⟩ := Prod.mk.inj (Option.some.inj (Except.ok.inj next))
      rfl

theorem Items.next?_eq_none {items : Items} (next : items.next? = .ok none) : items.Whole := by
  match items with
  | .done .closed => rfl
  | .done (.cut _ _) | .item .. => cases next

/-- A whole text is read if its document is, and nothing follows. -/
theorem readText_eq_ok_iff {α : Type} {read : Doc → Reading α} {text : String} {a : α} :
    readText read text = .ok a ↔ ∃ d, Parsed.ofText text = ⟨d, false⟩ ∧ read d = .ok a := by
  obtain ⟨⟨d, trailing⟩, parsed⟩ : ∃ parsed, Parsed.ofText text = parsed := ⟨_, rfl⟩
  rw [readText, parsed, bind_eq_ok_iff]
  cases trailing with
  | false =>
      constructor
      · rintro ⟨_, read, same⟩
        exact ⟨d, rfl, Except.ok.inj same ▸ read⟩
      · rintro ⟨_, same, read⟩
        obtain ⟨rfl, -⟩ := Parsed.mk.inj same
        exact ⟨a, read, rfl⟩
  | true =>
      constructor
      · rintro ⟨_, -, stopped⟩
        cases stopped
      · rintro ⟨_, same, -⟩
        cases same

end StarPlan.Json
