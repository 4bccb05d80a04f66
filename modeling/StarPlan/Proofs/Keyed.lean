import StarPlan.Keyed

/-!
# Keyed values as lists and as sets of names

`Keyed` describes its operations by what they do to `get?`. Two more views are needed of it.
As a set of names it is described by `contains`: two maps that contain the same names list the
same names (`names_congr`). As a list, `insert` puts one entry beside the
entries of all other names, so that whatever is collected from the entries grows by what the
new value adds to the old one (`flatMap_alter_perm`), wherever the name stands in the order.
-/

namespace StarPlan

namespace Keyed

variable {α β : Type}

theorem contains_iff {m : Keyed α} {name : String} :
    m.contains name = true ↔ ∃ value, m.get? name = some value :=
  Option.isSome_iff_exists

theorem contains_eq_false_iff {m : Keyed α} {name : String} :
    m.contains name = false ↔ m.get? name = none := by
  simp [contains]

theorem contains_insert (m : Keyed α) (name other : String) (value : α) :
    (m.insert name value).contains other = (other == name || m.contains other) := by
  rw [contains, get?_insert]
  by_cases h : other = name <;> simp [h, contains]

theorem contains_erase (m : Keyed α) (name other : String) :
    (m.erase name).contains other = (other != name && m.contains other) := by
  rw [contains, get?_erase]
  by_cases h : other = name <;> simp [h, contains]

theorem nodup_names (m : Keyed α) : (m.entries.map (·.1)).Nodup := by
  refine List.Pairwise.map _ ?_ m.ordered
  intro a b lt same
  exact String.lt_irrefl b.1 (same ▸ lt)

theorem mem_values_iff {m : Keyed α} {value : α} :
    value ∈ m.values ↔ ∃ name, m.get? name = some value := by
  simp only [values, List.mem_map, get?_eq_some_iff]
  constructor
  · rintro ⟨⟨name, _⟩, h, rfl⟩
    exact ⟨name, h⟩
  · rintro ⟨name, h⟩
    exact ⟨(name, value), h, rfl⟩

theorem eq_or_mem_of_mem_values_insert {m : Keyed α} {name : String} {value a : α}
    (h : a ∈ (m.insert name value).values) : a = value ∨ a ∈ m.values := by
  obtain ⟨other, found⟩ := mem_values_iff.1 h
  rw [get?_insert] at found
  split at found
  · exact .inl (Option.some.inj found).symm
  · exact .inr (mem_values_iff.2 ⟨other, found⟩)

theorem mem_values_insert_iff {m : Keyed α} {name : String} (absent : m.get? name = none)
    {value a : α} : a ∈ (m.insert name value).values ↔ a = value ∨ a ∈ m.values := by
  refine ⟨eq_or_mem_of_mem_values_insert, ?_⟩
  rintro (rfl | old)
  · exact mem_values_iff.2 ⟨name, get?_insert_self ..⟩
  · obtain ⟨other, found⟩ := mem_values_iff.1 old
    have differs : other ≠ name := by
      rintro rfl
      rw [absent] at found
      cases found
    exact mem_values_iff.2 ⟨other, by rw [get?_insert_of_ne m value differs, found]⟩

theorem insert_comm (m : Keyed α) {name other : String} (differs : name ≠ other)
    (value value' : α) :
    (m.insert name value).insert other value' = (m.insert other value').insert name value := by
  apply ext_get?
  intro wanted
  simp only [get?_insert]
  by_cases first : wanted = name
  · simp [first, differs]
  · simp [first]

theorem isEmpty_iff {m : Keyed α} : m.isEmpty = true ↔ ∀ name, m.get? name = none := by
  constructor
  · intro h name
    have nil : m.entries = [] := List.isEmpty_iff.1 h
    simp [get?, nil]
  · intro h
    refine List.isEmpty_iff.2 (List.eq_nil_iff_forall_not_mem.2 fun entry member => ?_)
    have found : m.get? entry.1 = some entry.2 := get?_eq_some_iff.2 member
    rw [h entry.1] at found
    cases found

/-- All names of the list lie behind `name`, so dropping `name` drops nothing. -/
private theorem filter_ne_of_lt {name : String} {l : List (String × α)}
    (above : ∀ a ∈ l, name < a.1) : (l.filter fun e => e.1 != name) = l := by
  apply List.filter_eq_self.2
  intro a member
  apply bne_iff_ne.2
  intro same
  exact String.lt_irrefl name (same ▸ above a member)

theorem insertEntry_perm (name : String) (value : α) {l : List (String × α)}
    (ordered : l.Pairwise fun a b => a.1 < b.1) :
    (insertEntry name value l).Perm ((name, value) :: l.filter fun e => e.1 != name) := by
  induction l with
  | nil => exact .refl _
  | cons e rest ih =>
      obtain ⟨head, tail⟩ := List.pairwise_cons.1 ordered
      unfold insertEntry
      split
      · next lt =>
        have above : ∀ a ∈ e :: rest, name < a.1 := by
          intro a member
          rcases List.mem_cons.1 member with rfl | member
          · exact lt
          · exact String.lt_trans lt (head a member)
        rw [filter_ne_of_lt above]
      · split
        · next lt =>
          have differs : e.1 ≠ name := fun same => String.lt_irrefl name (same ▸ lt)
          have kept : ((e :: rest).filter fun e => e.1 != name) =
              e :: rest.filter fun e => e.1 != name := by simp [differs]
          rw [kept]
          exact ((ih tail).cons e).trans (.swap ..)
        · next nlt ngt =>
          have same : e.1 = name :=
            String.le_antisymm (String.not_lt.1 nlt) (String.not_lt.1 ngt)
          have kept : ((e :: rest).filter fun e => e.1 != name) = rest := by
            rw [List.filter_cons_of_neg (by simp [same])]
            exact filter_ne_of_lt (same ▸ head)
          rw [kept]

theorem entries_insert_perm (m : Keyed α) (name : String) (value : α) :
    (m.insert name value).entries.Perm ((name, value) :: (m.erase name).entries) :=
  insertEntry_perm name value m.ordered

theorem insert_of_get? {m : Keyed α} {name : String} {value : α}
    (h : m.get? name = some value) : m.insert name value = m := by
  apply ext_get?
  intro other
  rw [get?_insert]
  split
  · next same => rw [same, h]
  · rfl

theorem size_insert (m : Keyed α) (name : String) (value : α) :
    (m.insert name value).size = (m.erase name).size + 1 :=
  (entries_insert_perm m name value).length_eq

theorem size_of_get? {m : Keyed α} {name : String} {value : α} (h : m.get? name = some value) :
    m.size = (m.erase name).size + 1 := by
  rw [← size_insert m name value, insert_of_get? h]

theorem erase_of_get?_eq_none {m : Keyed α} {name : String} (h : m.get? name = none) :
    m.erase name = m := by
  apply ext_get?
  intro other
  rw [get?_erase]
  split
  · next same => rw [same, h]
  · rfl

/-- What an entry list collects from the value under one name, if there is one. -/
def collected (f : String × α → List β) (name : String) : Option α → List β
  | some value => f (name, value)
  | none => []

/-- One name's share of what is collected from all entries, in front of the rest. -/
theorem flatMap_entries_perm (m : Keyed α) (f : String × α → List β) (name : String) :
    (m.entries.flatMap f).Perm
      (collected f name (m.get? name) ++ (m.erase name).entries.flatMap f) := by
  cases h : m.get? name with
  | none =>
      rw [erase_of_get?_eq_none h]
      exact .refl _
  | some value =>
      have parts := (entries_insert_perm m name value).flatMap_right f
      rwa [insert_of_get? h] at parts

/-- If a new value collects one thing more than the old one, so does the whole list. -/
theorem flatMap_alter_perm (m : Keyed α) (f : String × α → List β) (name : String)
    (g : Option α → α) (more : List β)
    (h : f (name, g (m.get? name)) = collected f name (m.get? name) ++ more) :
    ((m.alter name g).entries.flatMap f).Perm (m.entries.flatMap f ++ more) := by
  have grown := (entries_insert_perm m name (g (m.get? name))).flatMap_right f
  rw [List.flatMap_cons, h] at grown
  have old := (flatMap_entries_perm m f name).append_right more
  refine grown.trans (.trans ?_ old.symm)
  rw [List.append_assoc, List.append_assoc]
  exact List.perm_append_comm.append_left _

theorem get?_insertNew (m : Keyed α) (name other : String) (value : α) :
    (m.insertNew name value).get? other =
      (m.get? other).or (if other = name then some value else none) := by
  unfold insertNew
  split
  · next taken =>
    split
    · next same =>
      obtain ⟨old, h⟩ := contains_iff.1 taken
      simp [same, h]
    · simp
  · next free =>
    rw [get?_insert]
    split
    · next same =>
      have absent : m.get? name = none := contains_eq_false_iff.1 (by simpa using free)
      simp [same, absent]
    · simp

/-- Of several values for one name, the first is kept. -/
theorem get?_foldl_insertNew (l : List (String × α)) (m : Keyed α) (name : String) :
    (l.foldl (fun m e => m.insertNew e.1 e.2) m).get? name =
      (m.get? name).or (l.lookup name) := by
  induction l generalizing m with
  | nil => simp
  | cons e rest ih =>
      obtain ⟨key, value⟩ := e
      rw [List.foldl_cons, ih, get?_insertNew, Option.or_assoc, List.lookup_cons]
      by_cases h : name = key
      · simp [h]
      · have differs : (name == key) = false := beq_eq_false_iff_ne.2 h
        simp [h, differs]

theorem lookup_entries (m : Keyed α) {β : Type} (f : α → β) (name : String) :
    (m.entries.map fun e => (e.1, f e.2)).lookup name = (m.get? name).map f := by
  rw [get?]
  induction m.entries with
  | nil => rfl
  | cons e rest ih =>
      by_cases same : name = e.1
      · simp [same]
      · have differs : (name == e.1) = false := beq_eq_false_iff_ne.2 same
        have differs' : (e.1 == name) = false := beq_eq_false_iff_ne.2 (Ne.symm same)
        simp only [List.map_cons, List.lookup_cons, differs, List.find?_cons, differs', ih]

/-! The entries of a list that need not be in order. -/

theorem mem_of_lookup {κ : Type} [BEq κ] [LawfulBEq κ] {l : List (κ × α)} {name : κ} {value : α}
    (found : l.lookup name = some value) : (name, value) ∈ l := by
  obtain ⟨front, back, rfl, -⟩ := List.lookup_eq_some_iff.1 found
  exact List.mem_append_right front List.mem_cons_self

theorem lookup_of_mem {κ : Type} [BEq κ] [LawfulBEq κ] {l : List (κ × α)}
    (distinct : (l.map (·.1)).Nodup) {name : κ} {value : α} (member : (name, value) ∈ l) :
    l.lookup name = some value := by
  obtain ⟨front, back, rfl⟩ := List.append_of_mem member
  refine List.lookup_eq_some_iff.2 ⟨front, back, rfl, fun p before => bne_iff_ne.2 fun same => ?_⟩
  rw [List.map_append, List.nodup_append] at distinct
  exact distinct.2.2 p.1 (List.mem_map_of_mem before) name List.mem_cons_self same.symm

theorem lookup_map_of_mem {κ : Type} [BEq κ] [LawfulBEq κ] {l : List κ} {f : κ → α} {x : κ}
    (member : x ∈ l) : (l.map fun y => (y, f y)).lookup x = some (f x) := by
  induction l with
  | nil => cases member
  | cons y rest ih =>
      cases same : x == y with
      | true =>
          rw [eq_of_beq same]
          exact List.lookup_cons_self
      | false =>
          have differs : x ≠ y := beq_eq_false_iff_ne.1 same
          rw [List.map_cons, List.lookup_cons, same]
          exact ih ((List.mem_cons.1 member).resolve_left differs)

theorem get?_foldl_insert {l : List (String × α)} (distinct : (l.map (·.1)).Nodup) (m : Keyed α)
    (name : String) :
    (l.foldl (fun m e => m.insert e.1 e.2) m).get? name = (l.lookup name).or (m.get? name) := by
  induction l generalizing m with
  | nil => rfl
  | cons e rest ih =>
      obtain ⟨fresh, distinct⟩ := List.nodup_cons.1 distinct
      rw [List.foldl_cons, ih distinct, get?_insert, List.lookup_cons]
      by_cases same : name = e.1
      · have absent : rest.lookup name = none := List.lookup_eq_none_iff.2 fun p listed =>
          bne_iff_ne.2 fun again => fresh (List.mem_map.2 ⟨p, listed, again.symm.trans same⟩)
        simp [absent, ← same]
      · have differs : (name == e.1) = false := beq_eq_false_iff_ne.2 same
        simp [same, differs]

theorem get?_ofList {l : List (String × α)} (distinct : (l.map (·.1)).Nodup) (name : String) :
    (ofList l).get? name = l.lookup name := by
  rw [ofList, get?_foldl_insert distinct, get?_empty, Option.or_none]

/-- Where no name has two values, a search finds what is listed. -/
theorem lookup_eq_some_iff {l : List (String × α)}
    (one : ∀ p ∈ l, ∀ q ∈ l, p.1 = q.1 → p.2 = q.2) {name : String} {value : α} :
    l.lookup name = some value ↔ (name, value) ∈ l := by
  refine ⟨mem_of_lookup, fun member => ?_⟩
  cases found : l.lookup name with
  | none => exact absurd (List.lookup_eq_none_iff.1 found _ member) (by simp)
  | some other => exact congrArg some (one _ (mem_of_lookup found) _ member rfl)

theorem lookup_perm {l l' : List (String × α)} (perm : l.Perm l')
    (one : ∀ p ∈ l, ∀ q ∈ l, p.1 = q.1 → p.2 = q.2) (name : String) :
    l.lookup name = l'.lookup name := by
  have one' : ∀ p ∈ l', ∀ q ∈ l', p.1 = q.1 → p.2 = q.2 := fun p hp q hq =>
    one p (perm.mem_iff.2 hp) q (perm.mem_iff.2 hq)
  apply Option.ext
  intro value
  rw [lookup_eq_some_iff one, lookup_eq_some_iff one', perm.mem_iff]

end Keyed

namespace Names

theorem contains_ofList (l : List String) (name : String) :
    (ofList l).contains name = l.contains name := by
  have general : ∀ (l : List String) (s : Names),
      ((l.map fun n => (n, ())).foldl (fun s e => s.insert e.1 e.2) s).contains name =
        (s.contains name || l.contains name) := by
    intro l
    induction l with
    | nil => simp
    | cons n rest ih =>
        intro s
        rw [List.map_cons, List.foldl_cons, ih, Keyed.contains_insert, List.contains_cons]
        cases s.contains name <;> simp
  exact general l .empty

theorem contains_iff {s : Names} {name : String} :
    s.contains name = true ↔ s.get? name = some () := by
  rw [Keyed.contains_iff]
  exact ⟨fun ⟨(), found⟩ => found, fun found => ⟨(), found⟩⟩

/-- Two sets with the same members are one. -/
theorem ext {a b : Names} (same : ∀ name, a.contains name = b.contains name) : a = b := by
  apply Keyed.ext_get?
  intro name
  apply Option.ext
  rintro ⟨⟩
  exact contains_iff.symm.trans ((Bool.eq_iff_iff.1 (same name)).trans contains_iff)

end Names

namespace Keyed

variable {α β : Type}

theorem names_mapValues (f : α → β) (m : Keyed α) : (m.mapValues f).names = m.names := by
  rw [names, mapValues, List.map_map]
  rfl

theorem contains_mapValues (f : α → β) (m : Keyed α) (name : String) :
    (m.mapValues f).contains name = m.contains name := by
  rw [contains, get?_mapValues, Option.isSome_map, contains]

theorem names_congr {m : Keyed α} {n : Keyed β}
    (same : ∀ name, m.contains name = n.contains name) : m.names = n.names := by
  have unnamed : m.mapValues (fun _ => ()) = n.mapValues fun _ => () := by
    apply Names.ext
    intro name
    rw [contains_mapValues, contains_mapValues, same]
  rw [← names_mapValues (fun _ => ()) m, unnamed, names_mapValues]

end Keyed

end StarPlan
