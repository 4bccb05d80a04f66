import StarPlan.Proofs.Json.Rewriting

/-!
# Where a value stands in a document

A reader of places takes the value of a place from the first member whose key spells it, or, in an
array, from the item at its index. `Doc.place?` tells where that is without reading anything else,
and the laws here say that the readers take the value from there.
-/

namespace StarPlan.Json

/-- The items of an array, in order. -/
def Items.toList : Items → List Doc
  | .done _ => []
  | .item head tail => head :: tail.toList

/-- The items of a value. -/
def Doc.items : Doc → List Doc
  | .array items => items.toList
  | _ => []

/-- Whether a key is one of some names. -/
def RawText.spells (names : List String) (key : RawText) : Bool :=
  match key.read with
  | .ok name => names.contains name
  | .error _ => false

/-- The value of the first member whose key is one of some names. -/
def Members.valueOf? (names : List String) : Members → Option Doc
  | .member key value tail => if key.spells names then some value else tail.valueOf? names
  | .done _ | .noKey _ _ => none

/-- The value at a place that has names in an object and an index in an array. -/
def Doc.place? (names : List String) (index : ℕ) : Doc → Option Doc
  | .object members => members.valueOf? names
  | .array items => items.toList[index]?
  | _ => none

/-- Items that are all read alike give one result each. -/
theorem Items.forall₂_of_readAll {α : Type} {read : Doc → Reading α} {items : Items} {l : List α}
    (result : items.readAll read = .ok l) :
    List.Forall₂ (fun d a => read d = .ok a) items.toList l := by
  match items with
  | .done .closed =>
      obtain rfl := Except.ok.inj result
      exact .nil
  | .done (.cut _ _) => cases result
  | .item head tail =>
      obtain ⟨a, first, later⟩ := bind_eq_ok_iff.1 result
      obtain ⟨rest, tailed, same⟩ := bind_eq_ok_iff.1 later
      obtain rfl := Except.ok.inj same
      exact .cons first (forall₂_of_readAll tailed)

theorem Doc.forall₂_of_asList {α : Type} {read : Doc → Reading α} {d : Doc} {l : List α}
    (result : d.asList read = .ok l) : List.Forall₂ (fun d a => read d = .ok a) d.items l := by
  cases d with
  | array items => exact Items.forall₂_of_readAll result
  | _ =>
      simp only [Doc.asList] at result
      exact (Doc.not_mismatch _ _ result).elim

section

variable {σ κ β : Type} {read : String → Doc → σ → Reading σ} {find : String → Option κ}
variable {has : σ → κ → Bool} {set : σ → κ → Doc → Reading σ} {extra : Doc → Prop}

/-- What is held at a place is what was read for it, and other places leave it alone. -/
structure Holds (set : σ → κ → Doc → Reading σ) (place : κ) (view : σ → Option β)
    (value : Doc → Reading β) : Prop where
  taken : ∀ {s s' d}, set s place d = .ok s' → ∃ b, value d = .ok b ∧ view s' = some b
  others : ∀ {s s' other d}, other ≠ place → set s other d = .ok s' → view s' = view s

variable {place : κ} {view : σ → Option β} {value : Doc → Reading β}

/-- A place that is taken keeps what it holds. -/
theorem Holds.kept (holds : Holds set place view value)
    (reader : PlacesReader read find has set extra) {members : Members} {s s' : σ}
    (full : has s place = true) (result : members.readInto read s = .ok s') :
    view s' = view s := by
  match members with
  | .done .closed => rw [Except.ok.inj result]
  | .done (.cut _ _) | .noKey _ _ => cases result
  | .member key d tail =>
      obtain ⟨name, -, later⟩ := bind_eq_ok_iff.1 result
      obtain ⟨s₁, first, rest⟩ := bind_eq_ok_iff.1 later
      rcases (reader.reads_iff ..).1 first with ⟨other, -, free, set⟩ | ⟨-, -, rfl⟩
      · have differs : other ≠ place := by
          rintro rfl
          rw [full] at free
          cases free
        have full : has s₁ place = true := (reader.laws.others differs set).trans full
        rw [holds.kept reader full rest, holds.others differs set]
      · exact holds.kept reader full rest

/-- A place holds the value of the first member that spells it. -/
theorem Holds.valueOf? (holds : Holds set place view value)
    (reader : PlacesReader read find has set extra) {names : List String}
    (spelled : ∀ name, names.contains name = true ↔ find name = some place) {members : Members}
    {s s' : σ} (free : has s place = false) (empty : view s = none)
    (result : members.readInto read s = .ok s') :
    members.valueOf? names = none ∧ view s' = none ∨
      ∃ d b, members.valueOf? names = some d ∧ value d = .ok b ∧ view s' = some b := by
  match members with
  | .done .closed =>
      obtain rfl := Except.ok.inj result
      exact .inl ⟨rfl, empty⟩
  | .done (.cut _ _) | .noKey _ _ => cases result
  | .member key d tail =>
      obtain ⟨name, named, later⟩ := bind_eq_ok_iff.1 result
      obtain ⟨s₁, first, rest⟩ := bind_eq_ok_iff.1 later
      have spells : key.spells names = names.contains name := by rw [RawText.spells, named]
      have goesOn (unspelled : find name ≠ some place) :
          (Members.member key d tail).valueOf? names = tail.valueOf? names := by
        rw [ne_eq, ← spelled, ← spells] at unspelled
        exact if_neg unspelled
      rcases (reader.reads_iff ..).1 first with ⟨other, found, -, set⟩ | ⟨none, -, rfl⟩
      · by_cases same : other = place
        · subst same
          obtain ⟨b, read, held⟩ := holds.taken set
          have here := spells.trans ((spelled name).2 found)
          refine .inr ⟨d, b, if_pos here, read, ?_⟩
          rw [holds.kept reader (reader.laws.taken set) rest, held]
        · have unspelled : find name ≠ some place := by
            rw [found]
            exact fun eq => same (Option.some.inj eq)
          rw [goesOn unspelled]
          exact holds.valueOf? reader spelled ((reader.laws.others same set).trans free)
            ((holds.others same set).trans empty) rest
      · rw [goesOn (by rw [none]; exact nofun)]
        exact holds.valueOf? reader spelled free empty rest

end

end StarPlan.Json
