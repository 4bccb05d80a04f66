import Mathlib.Data.List.Basic
import StarPlan.Proofs.Json.Whole

/-!
# Objects whose members have places

An object is read member by member into places: the key of a member says which place its value
takes, each place is taken once, and a key may stand for no place. If a place keeps what it was
given and says nothing about the others (`PlaceLaws`), neither the order of the members nor the
spelling of their keys matters, nor do members that take no place; `MembersRewrite` lists these
ways to write an object anew, and `PlacesReader.readInto_rewrite` says that the same is read.
-/

namespace StarPlan.Json

/-- The items of a whole array. -/
def Items.ofList : List Doc → Items
  | [] => .done .closed
  | d :: ds => .item d (ofList ds)

/-- The members of a whole object. -/
def Members.ofList : List (RawText × Doc) → Members
  | [] => .done .closed
  | (key, d) :: ms => .member key d (ofList ms)

/-! Reading one value as another. -/

/-- What is read from one value is read from another. -/
def ReadsAs {α : Type} (read : Doc → Reading α) (d d' : Doc) : Prop :=
  ∀ a, read d = .ok a → read d' = .ok a

section

variable {α β : Type} {read : Doc → Reading α} {d d' : Doc}

theorem ReadsAs.bind (h : ReadsAs read d d') (next : α → Reading β) :
    ReadsAs (fun d => read d >>= next) d d' := by
  intro b result
  obtain ⟨a, first, rest⟩ := bind_eq_ok_iff.1 result
  exact bind_eq_ok_iff.2 ⟨a, h a first, rest⟩

/-- An array is read as the one in which an item is replaced. -/
theorem ReadsAs.asList (h : ReadsAs read d d') (front back : List Doc) :
    ReadsAs (Doc.asList read) (.array (.ofList (front ++ d :: back)))
      (.array (.ofList (front ++ d' :: back))) := by
  show ∀ l, (Items.ofList (front ++ d :: back)).readAll read = .ok l →
    (Items.ofList (front ++ d' :: back)).readAll read = .ok l
  induction front with
  | nil => exact h.bind fun a => do return a :: (← (Items.ofList back).readAll read)
  | cons first front ih =>
      intro l result
      obtain ⟨a, head, rest⟩ := bind_eq_ok_iff.1 result
      obtain ⟨as, tail, whole⟩ := bind_eq_ok_iff.1 rest
      exact bind_eq_ok_iff.2 ⟨a, head, bind_eq_ok_iff.2 ⟨as, ih as tail, whole⟩⟩

end

/-! Places. -/

section

variable {σ κ : Type}

/-- One place does not interfere with another. -/
structure PlaceLaws (has : σ → κ → Bool) (set : σ → κ → Doc → Reading σ) : Prop where
  taken : ∀ {s s' a d}, set s a d = .ok s' → has s' a = true
  others : ∀ {s s' a b d}, a ≠ b → set s a d = .ok s' → has s' b = has s b
  swap : ∀ {s s₁ s₂ a b d d'}, a ≠ b → set s a d = .ok s₁ → set s₁ b d' = .ok s₂ →
    ∃ s₁', set s b d' = .ok s₁' ∧ set s₁' a d = .ok s₂

/-- The laws hold if a place is set by taking over its part of what is read by itself. -/
theorem PlaceLaws.of_put {has : σ → κ → Bool} {set : σ → κ → Doc → Reading σ}
    (put : σ → σ → κ → σ) (empty : σ)
    (set_iff : ∀ {s s' a d}, set s a d = .ok s' ↔ ∃ u, set empty a d = .ok u ∧ put s u a = s')
    (taken : ∀ {s s' a d}, set s a d = .ok s' → has s' a = true)
    (others : ∀ s u a b, a ≠ b → has (put s u a) b = has s b)
    (swap : ∀ s u v a b, a ≠ b → put (put s u a) v b = put (put s v b) u a) :
    PlaceLaws has set where
  taken := taken
  others := by
    intro s s' a b d differs result
    obtain ⟨u, -, rfl⟩ := set_iff.1 result
    exact others s u a b differs
  swap := by
    intro s s₁ s₂ a b d d' differs first second
    obtain ⟨u, read, rfl⟩ := set_iff.1 first
    obtain ⟨v, read', rfl⟩ := set_iff.1 second
    exact ⟨put s v b, set_iff.2 ⟨v, read', rfl⟩,
      set_iff.2 ⟨u, read, (swap s u v a b differs).symm⟩⟩

/-- The places whose keys are spelled in some of the given ways. -/
def placeOf? (places : List κ) (spellings : κ → List String) (name : String) : Option κ :=
  places.find? fun place => (spellings place).contains name

/-- A reader of members fills places that are still free, and passes over some of the values whose
keys stand for no place. -/
structure PlacesReader (read : String → Doc → σ → Reading σ) (find : String → Option κ)
    (has : σ → κ → Bool) (set : σ → κ → Doc → Reading σ) (extra : Doc → Prop) : Prop where
  laws : PlaceLaws has set
  reads_iff : ∀ name d s s', read name d s = .ok s' ↔
    (∃ place, find name = some place ∧ has s place = false ∧ set s place d = .ok s') ∨
      (find name = none ∧ extra d ∧ s' = s)

/-- If the values of places are whole, and those that are passed over, all values are. -/
theorem PlacesReader.whole_of_read {read : String → Doc → σ → Reading σ}
    {find : String → Option κ} {has : σ → κ → Bool} {set : σ → κ → Doc → Reading σ}
    {extra : Doc → Prop} (reader : PlacesReader read find has set extra)
    (filled : ∀ s place, ReadsWhole (set s place)) (passed : ∀ d, extra d → d.Whole)
    {name : String} {d : Doc} {s s' : σ} (result : read name d s = .ok s') : d.Whole := by
  rcases (reader.reads_iff ..).1 result with ⟨place, -, -, taken⟩ | ⟨-, spare, -⟩
  · exact filled s place d s' taken
  · exact passed d spare

/-- Reads one member. -/
def readNamed (read : String → Doc → σ → Reading σ) (s : σ) (m : RawText × Doc) : Reading σ := do
  read (← m.1.read) m.2 s

variable {read : String → Doc → σ → Reading σ} {find : String → Option κ}
variable {has : σ → κ → Bool} {set : σ → κ → Doc → Reading σ} {extra : Doc → Prop}

theorem readNamed_replace {key key' : RawText} {name name' : String} {d d' : Doc}
    (named : key.read = .ok name) (named' : key'.read = .ok name')
    (same : ∀ s s', read name d s = .ok s' → read name' d' s = .ok s') (s s' : σ)
    (result : readNamed read s (key, d) = .ok s') : readNamed read s (key', d') = .ok s' := by
  obtain ⟨name₁, readName, done⟩ := bind_eq_ok_iff.1 result
  obtain rfl := Except.ok.inj (readName.symm.trans named)
  exact bind_eq_ok_iff.2 ⟨name', named', same s s' done⟩

theorem PlacesReader.of_eq (laws : PlaceLaws has set) (fault : κ → ContentFault)
    (known : ∀ {name d s place}, find name = some place →
      read name d s = if has s place then refuse (fault place) else set s place d)
    (unknown : ∀ {name d s s'}, find name = none →
      (read name d s = .ok s' ↔ extra d ∧ s' = s)) :
    PlacesReader read find has set extra where
  laws := laws
  reads_iff := by
    intro name d s s'
    cases found : find name with
    | none => simpa using unknown found
    | some place =>
        rw [known found]
        cases free : has s place <;> simp [free, refuse]

theorem Members.readInto_ofList (ms : List (RawText × Doc)) (s : σ) :
    (ofList ms).readInto read s = ms.foldlM (readNamed read) s := by
  induction ms generalizing s with
  | nil => rfl
  | cons m ms ih =>
      obtain ⟨key, d⟩ := m
      rw [ofList, readInto, List.foldlM_cons, readNamed, bind_assoc]
      exact bind_congr fun name => bind_congr fun s => ih s

theorem PlacesReader.swap (reader : PlacesReader read find has set extra) {s s₁ s₂ : σ}
    {m m' : RawText × Doc} (first : readNamed read s m = .ok s₁)
    (second : readNamed read s₁ m' = .ok s₂) :
    ∃ s₁', readNamed read s m' = .ok s₁' ∧ readNamed read s₁' m = .ok s₂ := by
  obtain ⟨name, named, first⟩ := bind_eq_ok_iff.1 first
  obtain ⟨name', named', second⟩ := bind_eq_ok_iff.1 second
  suffices ∃ s₁', read name' m'.2 s = .ok s₁' ∧ read name m.2 s₁' = .ok s₂ by
    obtain ⟨s₁', second, first⟩ := this
    exact ⟨s₁', bind_eq_ok_iff.2 ⟨name', named', second⟩, bind_eq_ok_iff.2 ⟨name, named, first⟩⟩
  rcases (reader.reads_iff ..).1 first with ⟨a, found, free, taken⟩ | ⟨none, passed, rfl⟩
  · rcases (reader.reads_iff ..).1 second with ⟨b, found', free', taken'⟩ | ⟨none, passed, rfl⟩
    · have differs : a ≠ b := by
        rintro rfl
        rw [reader.laws.taken taken] at free'
        cases free'
      obtain ⟨s₁', second, first⟩ := reader.laws.swap differs taken taken'
      have freeBefore : has s b = false := (reader.laws.others differs taken).symm.trans free'
      have freeAfter : has s₁' a = false :=
        (reader.laws.others differs.symm second).trans free
      exact ⟨s₁', (reader.reads_iff ..).2 (.inl ⟨b, found', freeBefore, second⟩),
        (reader.reads_iff ..).2 (.inl ⟨a, found, freeAfter, first⟩)⟩
    · exact ⟨s, (reader.reads_iff ..).2 (.inr ⟨none, passed, rfl⟩), first⟩
  · refine ⟨s₂, second, (reader.reads_iff ..).2 (.inr ⟨none, passed, rfl⟩)⟩

/-- If two steps may be taken in either order, so may all. -/
theorem foldlM_perm {α : Type} {step : σ → α → Reading σ}
    (swap : ∀ s s₁ s₂ a b, step s a = .ok s₁ → step s₁ b = .ok s₂ →
      ∃ s₁', step s b = .ok s₁' ∧ step s₁' a = .ok s₂)
    {l l' : List α} (perm : l.Perm l') {s s' : σ} (result : l.foldlM step s = .ok s') :
    l'.foldlM step s = .ok s' := by
  induction perm generalizing s with
  | nil => exact result
  | cons a _ ih =>
      obtain ⟨s₁, first, rest⟩ := foldlM_cons_eq_ok_iff.1 result
      exact foldlM_cons_eq_ok_iff.2 ⟨s₁, first, ih rest⟩
  | swap a b l =>
      obtain ⟨s₁, first, rest⟩ := foldlM_cons_eq_ok_iff.1 result
      obtain ⟨s₂, second, rest⟩ := foldlM_cons_eq_ok_iff.1 rest
      obtain ⟨s₁', second, first⟩ := swap s s₁ s₂ b a first second
      exact foldlM_cons_eq_ok_iff.2 ⟨s₁', second, foldlM_cons_eq_ok_iff.2 ⟨s₂, first, rest⟩⟩
  | trans _ _ ih ih' => exact ih' (ih result)

/-- One member may be replaced by another that does the same. -/
theorem foldlM_replace {α : Type} {step : σ → α → Reading σ} {a a' : α}
    (same : ∀ s s', step s a = .ok s' → step s a' = .ok s') {front back : List α} {s s' : σ}
    (result : (front ++ a :: back).foldlM step s = .ok s') :
    (front ++ a' :: back).foldlM step s = .ok s' := by
  obtain ⟨s₁, first, rest⟩ := foldlM_append_eq_ok_iff.1 result
  obtain ⟨s₂, second, rest⟩ := foldlM_cons_eq_ok_iff.1 rest
  have second' := same s₁ s₂ second
  exact foldlM_append_eq_ok_iff.2 ⟨s₁, first, foldlM_cons_eq_ok_iff.2 ⟨s₂, second', rest⟩⟩

/-- A member that does nothing may be added. -/
theorem foldlM_insert {α : Type} {step : σ → α → Reading σ} {a : α}
    (idle : ∀ s, step s a = .ok s) {front back : List α} {s s' : σ}
    (result : (front ++ back).foldlM step s = .ok s') :
    (front ++ a :: back).foldlM step s = .ok s' := by
  obtain ⟨s₁, first, rest⟩ := foldlM_append_eq_ok_iff.1 result
  exact foldlM_append_eq_ok_iff.2 ⟨s₁, first, foldlM_cons_eq_ok_iff.2 ⟨s₁, idle s₁, rest⟩⟩

end

/-! Objects written anew. -/

section

variable {σ κ : Type}

/-- The ways to write the members of an object anew: in another order, with another spelling of
a key, or with one more member that stands for no place. -/
inductive MembersRewrite (places : List κ) (spellings : κ → List String) (extra : Doc → Prop) :
    List (RawText × Doc) → List (RawText × Doc) → Prop
  | reorder {ms ms' : List (RawText × Doc)} (perm : ms.Perm ms') :
    MembersRewrite places spellings extra ms ms'
  | respell {front back : List (RawText × Doc)} {key key' : RawText} {d : Doc} {place : κ}
    {name name' : String} (listed : place ∈ places) (read : key.read = .ok name)
    (read' : key'.read = .ok name') (spelled : name ∈ spellings place)
    (spelled' : name' ∈ spellings place) :
    MembersRewrite places spellings extra (front ++ (key, d) :: back)
      (front ++ (key', d) :: back)
  | add {front back : List (RawText × Doc)} {key : RawText} {d : Doc} {name : String}
    (read : key.read = .ok name) (unknown : ∀ place ∈ places, name ∉ spellings place)
    (passed : extra d) :
    MembersRewrite places spellings extra (front ++ back) (front ++ (key, d) :: back)

variable {places : List κ} {spellings : κ → List String} {extra : Doc → Prop} {name : String}

theorem placeOf?_eq_none (unknown : ∀ place ∈ places, name ∉ spellings place) :
    placeOf? places spellings name = none :=
  List.find?_eq_none.2 fun place listed => by simpa using unknown place listed

/-- If no spelling stands for two places, a key stands for the place that it spells. -/
theorem placeOf?_eq_some
    (apart : ∀ place ∈ places, ∀ other ∈ places, ∀ name ∈ spellings place,
      name ∈ spellings other → place = other)
    {place : κ} (listed : place ∈ places) (spelled : name ∈ spellings place) :
    placeOf? places spellings name = some place := by
  cases found : placeOf? places spellings name with
  | none =>
      have unspelled := List.find?_eq_none.1 found place listed
      exact absurd (List.contains_iff_mem.2 spelled) unspelled
  | some other =>
      have listed' := List.mem_of_find?_eq_some found
      have spelled' : name ∈ spellings other := by simpa using List.find?_some found
      rw [apart place listed other listed' name spelled spelled']

variable {read : String → Doc → σ → Reading σ} {has : σ → κ → Bool}
variable {set : σ → κ → Doc → Reading σ}

/-- What is read from an object is read from the object written anew. -/
theorem PlacesReader.readInto_rewrite
    (reader : PlacesReader read (placeOf? places spellings) has set extra)
    (apart : ∀ place ∈ places, ∀ other ∈ places, ∀ name ∈ spellings place,
      name ∈ spellings other → place = other)
    {ms ms' : List (RawText × Doc)} (rewrite : MembersRewrite places spellings extra ms ms')
    {s s' : σ} (result : (Members.ofList ms).readInto read s = .ok s') :
    (Members.ofList ms').readInto read s = .ok s' := by
  rw [Members.readInto_ofList] at result ⊢
  cases rewrite with
  | reorder perm =>
      refine foldlM_perm ?_ perm result
      exact fun _ _ _ _ _ first second => reader.swap first second
  | respell listed named named' spelled spelled' =>
      refine foldlM_replace (readNamed_replace named named' fun s s' done => ?_) result
      rw [reader.reads_iff, placeOf?_eq_some apart listed spelled] at done
      rwa [reader.reads_iff, placeOf?_eq_some apart listed spelled']
  | @add _ _ key d name named unknown passed =>
      have idle : ∀ s, readNamed read s (key, d) = .ok s := fun s => bind_eq_ok_iff.2
        ⟨name, named, (reader.reads_iff ..).2 (.inr ⟨placeOf?_eq_none unknown, passed, rfl⟩)⟩
      exact foldlM_insert idle result

/-- So is what is read from the object in which the value of a place is read as before. -/
theorem PlacesReader.readInto_replace
    (reader : PlacesReader read (placeOf? places spellings) has set extra)
    (apart : ∀ place ∈ places, ∀ other ∈ places, ∀ name ∈ spellings place,
      name ∈ spellings other → place = other)
    {place : κ} (listed : place ∈ places) {key : RawText} {name : String}
    (named : key.read = .ok name) (spelled : name ∈ spellings place) {d d' : Doc}
    (same : ∀ s, ReadsAs (set s place) d d') {front back : List (RawText × Doc)} {s s' : σ}
    (result : (Members.ofList (front ++ (key, d) :: back)).readInto read s = .ok s') :
    (Members.ofList (front ++ (key, d') :: back)).readInto read s = .ok s' := by
  rw [Members.readInto_ofList] at result ⊢
  refine foldlM_replace (readNamed_replace named named fun s s' done => ?_) result
  rw [reader.reads_iff, placeOf?_eq_some apart listed spelled] at done ⊢
  rcases done with ⟨_, ⟨⟩, free, read⟩ | ⟨⟨⟩, -⟩
  exact .inl ⟨place, rfl, free, same s s' read⟩

end

end StarPlan.Json
