/-!
# Values under names, in name order

`Keyed α` holds values under pairwise distinct names. The names stand in ascending code-point
order, and the order is part of the type: two of them that answer every look-up alike are
equal (`Keyed.ext_get?`), whatever the history of insertions behind them.

Each operation is described by one equation for `get?`; nothing else needs to be unfolded.
-/

namespace StarPlan

/-- Values under distinct names, listed in ascending order of the names. -/
structure Keyed (α : Type) where
  entries : List (String × α)
  ordered : entries.Pairwise fun a b => a.1 < b.1
deriving DecidableEq

namespace Keyed

variable {α β : Type}

/-- A list of named values with one more, which replaces a value of the same name. -/
def insertEntry (name : String) (value : α) : List (String × α) → List (String × α)
  | [] => [(name, value)]
  | e :: rest =>
    if name < e.1 then (name, value) :: e :: rest
    else if e.1 < name then e :: insertEntry name value rest
    else (name, value) :: rest

theorem mem_insertEntry {name : String} {value : α} {a : String × α} {l : List (String × α)}
    (h : a ∈ insertEntry name value l) : a = (name, value) ∨ a ∈ l := by
  induction l with
  | nil => simpa [insertEntry] using h
  | cons e rest ih => grind [insertEntry]

theorem pairwise_insertEntry (name : String) (value : α) {l : List (String × α)}
    (h : l.Pairwise fun a b => a.1 < b.1) :
    (insertEntry name value l).Pairwise fun a b => a.1 < b.1 := by
  induction l with
  | nil => simp [insertEntry]
  | cons e rest ih =>
    obtain ⟨head, tail⟩ := List.pairwise_cons.1 h
    unfold insertEntry
    split
    · next lt =>
      refine List.pairwise_cons.2 ⟨fun a ha => ?_, h⟩
      rcases List.mem_cons.1 ha with rfl | ha
      · exact lt
      · exact String.lt_trans lt (head a ha)
    · split
      · next lt =>
        refine List.pairwise_cons.2 ⟨fun a ha => ?_, ih tail⟩
        rcases mem_insertEntry ha with rfl | ha
        · exact lt
        · exact head a ha
      · next nlt ngt =>
        have same : e.1 = name :=
          String.le_antisymm (String.not_lt.1 nlt) (String.not_lt.1 ngt)
        exact List.pairwise_cons.2 ⟨fun a ha => same ▸ head a ha, tail⟩

/-- No values at all. -/
def empty : Keyed α := ⟨[], .nil⟩

instance : Inhabited (Keyed α) := ⟨empty⟩

/-- The value under a name. -/
def get? (m : Keyed α) (name : String) : Option α :=
  (m.entries.find? fun e => e.1 == name).map (·.2)

/-- Whether a name has a value. -/
def contains (m : Keyed α) (name : String) : Bool :=
  (m.get? name).isSome

/-- The names, ascending. -/
def names (m : Keyed α) : List String :=
  m.entries.map (·.1)

/-- The values, in the order of their names. -/
def values (m : Keyed α) : List α :=
  m.entries.map (·.2)

/-- How many names there are. -/
def size (m : Keyed α) : Nat :=
  m.entries.length

/-- Whether there are no names. -/
def isEmpty (m : Keyed α) : Bool :=
  m.entries.isEmpty

/-- Sets the value under a name. -/
def insert (m : Keyed α) (name : String) (value : α) : Keyed α :=
  ⟨insertEntry name value m.entries, pairwise_insertEntry name value m.ordered⟩

/-- Drops a name with its value. -/
def erase (m : Keyed α) (name : String) : Keyed α :=
  ⟨m.entries.filter fun e => e.1 != name, m.ordered.filter _⟩

/-- Sets the value under a name from the one that was there. -/
def alter (m : Keyed α) (name : String) (f : Option α → α) : Keyed α :=
  m.insert name (f (m.get? name))

/-- Sets the value under a name unless it has one. -/
def insertNew (m : Keyed α) (name : String) (value : α) : Keyed α :=
  if m.contains name then m else m.insert name value

/-- The values of a list of pairs; of two pairs with one name the later counts. -/
def ofList (l : List (String × α)) : Keyed α :=
  l.foldl (fun m e => m.insert e.1 e.2) empty

/-- Rewrites every value under its name. -/
def mapValues (f : α → β) (m : Keyed α) : Keyed β :=
  ⟨m.entries.map fun e => (e.1, f e.2), List.Pairwise.map _ (fun _ _ h => h) m.ordered⟩

@[simp] theorem get?_empty (name : String) : (empty : Keyed α).get? name = none := rfl

private theorem find?_insertEntry (name other : String) (value : α) (l : List (String × α)) :
    (insertEntry name value l).find? (fun e => e.1 == other) =
      if other = name then some (name, value) else l.find? (fun e => e.1 == other) := by
  induction l with
  | nil => by_cases h : other = name <;> simp [insertEntry, h, Ne.symm]
  | cons e rest ih =>
    unfold insertEntry
    split
    · next lt =>
      by_cases h : other = name
      · simp [h]
      · simp [List.find?_cons, h, Ne.symm h]
    · split
      · next lt =>
        by_cases h : e.1 = other
        · have : other ≠ name := fun h' => String.lt_irrefl name (by rw [h, h'] at lt; exact lt)
          simp [h, this]
        · simp [h, ih]
      · next nlt ngt =>
        have same : e.1 = name :=
          String.le_antisymm (String.not_lt.1 nlt) (String.not_lt.1 ngt)
        by_cases h : other = name
        · simp [h]
        · simp [h, Ne.symm h, same]

theorem get?_insert (m : Keyed α) (name other : String) (value : α) :
    (m.insert name value).get? other = if other = name then some value else m.get? other := by
  simp only [get?, insert, find?_insertEntry]
  split <;> rfl

@[simp] theorem get?_insert_self (m : Keyed α) (name : String) (value : α) :
    (m.insert name value).get? name = some value := by
  simp [get?_insert]

theorem get?_insert_of_ne (m : Keyed α) {name other : String} (value : α) (h : other ≠ name) :
    (m.insert name value).get? other = m.get? other := by
  simp [get?_insert, h]

theorem get?_erase (m : Keyed α) (name other : String) :
    (m.erase name).get? other = if other = name then none else m.get? other := by
  simp only [get?, erase, List.find?_filter]
  split
  · next h =>
    subst h
    simp
  · next h =>
    congr 2
    funext e
    by_cases he : e.1 = other <;> simp [he, h]

theorem get?_alter (m : Keyed α) (name other : String) (f : Option α → α) :
    (m.alter name f).get? other = if other = name then some (f (m.get? name)) else m.get? other :=
  get?_insert ..

theorem get?_mapValues (f : α → β) (m : Keyed α) (name : String) :
    (m.mapValues f).get? name = (m.get? name).map f := by
  simp [get?, mapValues, List.find?_map, Function.comp_def]

theorem get?_eq_some_iff {m : Keyed α} {name : String} {value : α} :
    m.get? name = some value ↔ (name, value) ∈ m.entries := by
  obtain ⟨l, hl⟩ := m
  simp only [get?]
  induction l with
  | nil => simp
  | cons e rest ih =>
    obtain ⟨head, tail⟩ := List.pairwise_cons.1 hl
    by_cases h : e.1 = name
    · have absent : (name, value) ∉ rest := fun hm =>
        String.lt_irrefl name (by simpa [h] using head _ hm)
      simp only [List.find?_cons, h, beq_self_eq_true, Option.map_some, Option.some.injEq,
        List.mem_cons, absent, or_false]
      constructor
      · intro hv; exact Prod.ext h.symm hv.symm
      · intro he; rw [← he]
    · have : (name, value) ≠ e := fun he => h (by rw [← he])
      simp [h, this, ih tail]

/-- Two that answer every look-up alike are one. -/
theorem ext_get? {m n : Keyed α} (h : ∀ name, m.get? name = n.get? name) : m = n := by
  obtain ⟨l, hl⟩ := m
  obtain ⟨k, hk⟩ := n
  have same : ∀ a, a ∈ l ↔ a ∈ k := by
    intro a
    have := h a.1
    constructor
    · intro ha
      have ha' : (⟨l, hl⟩ : Keyed α).get? a.1 = some a.2 := get?_eq_some_iff.2 ha
      exact get?_eq_some_iff.1 (this ▸ ha')
    · intro ha
      have ha' : (⟨k, hk⟩ : Keyed α).get? a.1 = some a.2 := get?_eq_some_iff.2 ha
      exact get?_eq_some_iff.1 (this.symm ▸ ha')
  have : l = k := by
    clear h
    induction l generalizing k with
    | nil =>
      cases k with
      | nil => rfl
      | cons b k => exact absurd ((same b).2 List.mem_cons_self) List.not_mem_nil
    | cons a l ih =>
      cases k with
      | nil => exact absurd ((same a).1 List.mem_cons_self) List.not_mem_nil
      | cons b k =>
        obtain ⟨above, tail⟩ := List.pairwise_cons.1 hl
        obtain ⟨above', tail'⟩ := List.pairwise_cons.1 hk
        have first : a = b := by
          rcases List.mem_cons.1 ((same a).1 List.mem_cons_self) with hab | hab
          · exact hab
          · rcases List.mem_cons.1 ((same b).2 List.mem_cons_self) with hba | hba
            · exact hba.symm
            · exact absurd (String.lt_trans (above _ hba) (above' _ hab)) (String.lt_irrefl _)
        subst first
        rw [ih tail k tail' fun c => ?_]
        have := same c
        simp only [List.mem_cons] at this
        constructor
        · intro hc
          rcases this.1 (.inr hc) with rfl | hk'
          · exact absurd (above _ hc) (String.lt_irrefl _)
          · exact hk'
        · intro hc
          rcases this.2 (.inr hc) with rfl | hl'
          · exact absurd (above' _ hc) (String.lt_irrefl _)
          · exact hl'
  subst this
  rfl

end Keyed

/-- A set of names. -/
abbrev Names := Keyed Unit

namespace Names

/-- The names of a list, as a set. -/
def ofList (l : List String) : Names :=
  Keyed.ofList (l.map fun name => (name, ()))

/-- The set with one more name. -/
def add (s : Names) (name : String) : Names :=
  s.insert name ()

end Names

end StarPlan
