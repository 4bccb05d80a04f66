import StarPlan.Proofs.Json.Magnitude
import StarPlan.Proofs.Json.Places
import StarPlan.Proofs.Plan.Lowering
import StarPlan.Proofs.Request.Presentation

/-!
# Numbers as the literals of filters

A filter condition may be a number token, and what is kept of it is text. The text always denotes
the number of the token if this is an integer of 64 bits or has at most fifteen digits at a small
power of ten. In general it does exactly if the number is one of those that are `Numeral.Kept`
(`Request.ofText_literals`): the condition may be changed on the way to the query
(`Request.not_ofText_literals`), although it stands for a literal that is written as it is.
-/

namespace StarPlan

open Json

/-! Conditions and the filters that they come from. -/

namespace EntryDraft

theorem holds_condition : Holds set .condition condition readCondition where
  taken := by
    intro e e' d result
    obtain ⟨text, read, same⟩ := bind_eq_ok_iff.1 result
    obtain rfl := Except.ok.inj same
    exact ⟨text, read, rfl⟩
  others := by
    intro e e' key d differs result
    cases key with
    | condition => exact absurd rfl differs
    | field | calculation | op =>
        obtain ⟨_, -, same⟩ := bind_eq_ok_iff.1 result
        obtain rfl := Except.ok.inj same
        rfl

end EntryDraft

/-- What an entry written as an array has for its last member is its last item. -/
theorem EntryShape.condition_of_readValues {items : Items} {e : EntryDraft}
    (read : EntryShape.filter.readValues EntryShape.filter.keys items .empty = .ok e) :
    ∃ d text, items.toList[2]? = some d ∧ EntryDraft.readCondition d = .ok text ∧
      e.condition = some text := by
  have next {keys : List EntryKey} {key : EntryKey} {items : Items} {e e' : EntryDraft}
      (read : EntryShape.filter.readValues (key :: keys) items e = .ok e') :
      ∃ d rest e₁, items = .item d rest ∧ e.set key d = .ok e₁ ∧
        EntryShape.filter.readValues keys rest e₁ = .ok e' := by
    obtain ⟨found, item, read⟩ := bind_eq_ok_iff.1 read
    obtain _ | ⟨d, rest⟩ := found
    · cases read
    · obtain ⟨e₁, first, later⟩ := bind_eq_ok_iff.1 read
      exact ⟨d, rest, e₁, Items.next?_eq_some item, first, later⟩
  obtain ⟨_, _, _, rfl, -, read⟩ := next read
  obtain ⟨_, _, _, rfl, -, read⟩ := next read
  obtain ⟨d, rest, e₁, rfl, last, read⟩ := next read
  obtain ⟨_, -, same⟩ := bind_eq_ok_iff.1 read
  obtain rfl := Except.ok.inj same
  obtain ⟨text, read, held⟩ := EntryDraft.holds_condition.taken last
  exact ⟨d, text, rfl, read, held⟩

/-- A spelling stands for its place. -/
theorem placeOf?_eq_some_iff {κ : Type} {places : List κ} {spellings : κ → List String}
    (apart : ∀ place ∈ places, ∀ other ∈ places, ∀ name ∈ spellings place,
      name ∈ spellings other → place = other) {place : κ} (listed : place ∈ places)
    (name : String) :
    (spellings place).contains name = true ↔ placeOf? places spellings name = some place :=
  ⟨fun spelled => placeOf?_eq_some apart listed (List.contains_iff_mem.1 spelled),
    fun found => @List.find?_some _ (fun place => (spellings place).contains name) _ _ found⟩

/-- The value of the condition in an entry of the filter section. -/
def FilterItem.conditionDoc? (entry : Doc) : Option Doc :=
  entry.place? (EntryKey.spellings .condition) 2

/-- The condition of a filter is read from its place. -/
theorem FilterItem.exists_conditionDoc {entry : Doc} {item : FilterItem}
    (read : FilterItem.ofDoc entry = .ok item) :
    ∃ d, FilterItem.conditionDoc? entry = some d ∧
      EntryDraft.readCondition d = .ok item.condition := by
  obtain ⟨e, shaped, read⟩ := bind_eq_ok_iff.1 read
  obtain ⟨field, -, read⟩ := bind_eq_ok_iff.1 read
  obtain ⟨op, -, read⟩ := bind_eq_ok_iff.1 read
  obtain ⟨condition, needed, same⟩ := bind_eq_ok_iff.1 read
  obtain rfl := Except.ok.inj same
  have held : e.condition = some condition := by
    cases found : e.condition with
    | none =>
        rw [found] at needed
        cases needed
    | some text =>
        rw [found] at needed
        rw [Except.ok.inj needed]
  cases entry with
  | array items =>
      obtain ⟨d, text, there, stored, eq⟩ := EntryShape.condition_of_readValues shaped
      obtain rfl := Option.some.inj (eq.symm.trans held)
      exact ⟨d, there, stored⟩
  | object members =>
      have listed : EntryKey.condition ∈ EntryShape.filter.keys := by decide
      have spelled := placeOf?_eq_some_iff
        (fun key _ other _ => EntryDraft.spellings_apart key other) listed
      rcases EntryDraft.holds_condition.valueOf? (EntryDraft.placesReader _) spelled rfl rfl shaped
        with ⟨-, none⟩ | ⟨d, text, there, stored, eq⟩
      · rw [held] at none
        cases none
      · obtain rfl := Option.some.inj (eq.symm.trans held)
        exact ⟨d, there, stored⟩
  | _ =>
      simp only [EntryShape.read] at shaped
      exact (Doc.not_mismatch _ _ shaped).elim

/-! The entries of the filter section. -/

namespace RequestDraft

theorem holds_filter : Holds set .filter filter (Doc.asList FilterItem.ofDoc) where
  taken := by
    intro r r' d result
    obtain ⟨items, read, same⟩ := bind_eq_ok_iff.1 result
    obtain rfl := Except.ok.inj same
    exact ⟨items, read, rfl⟩
  others := by
    intro r r' s d differs result
    cases s with
    | filter => exact absurd rfl differs
    | select | aggregate =>
        obtain ⟨_, -, same⟩ := bind_eq_ok_iff.1 result
        obtain rfl := Except.ok.inj same
        rfl

/-- An array of sections ends, or goes on with the next one. -/
theorem readSections_next {s : Section} {rest : List Section} {items : Items}
    {r r' : RequestDraft} (read : readSections (s :: rest) items r = .ok r') :
    items.toList = [] ∧ r' = r ∨
      ∃ d tail r₁, items.toList = d :: tail.toList ∧ r.set s d = .ok r₁ ∧
        readSections rest tail r₁ = .ok r' := by
  match items with
  | .done .closed => exact .inl ⟨rfl, (Except.ok.inj read).symm⟩
  | .done (.cut _ _) => cases read
  | .item d tail =>
      obtain ⟨_, found, read⟩ := bind_eq_ok_iff.1 read
      obtain rfl := Except.ok.inj found
      obtain ⟨r₁, first, later⟩ := bind_eq_ok_iff.1 read
      exact .inr ⟨d, tail, r₁, rfl, first, later⟩

/-- What a request written as an array has for its last section is its third item, if it has
that many. -/
theorem filter_of_readSections {items : Items} {r : RequestDraft}
    (read : readSections Section.all items .empty = .ok r) :
    items.toList[2]? = none ∧ r.filter = none ∨
      ∃ d filters, items.toList[2]? = some d ∧ Doc.asList FilterItem.ofDoc d = .ok filters ∧
        r.filter = some filters := by
  rcases readSections_next read with ⟨ends, rfl⟩ | ⟨_, _, r₁, goesOn, select, read⟩
  · exact .inl ⟨by rw [ends]; rfl, rfl⟩
  have free₁ : r₁.filter = none := holds_filter.others (by decide) select
  rcases readSections_next read with ⟨ends, rfl⟩ | ⟨_, _, r₂, goesOn', aggregate, read⟩
  · exact .inl ⟨by rw [goesOn, ends]; rfl, free₁⟩
  have free₂ : r₂.filter = none := (holds_filter.others (by decide) aggregate).trans free₁
  rcases readSections_next read with ⟨ends, rfl⟩ | ⟨d, _, r₃, goesOn'', filter, read⟩
  · exact .inl ⟨by rw [goesOn, goesOn', ends]; rfl, free₂⟩
  obtain ⟨_, -, same⟩ := bind_eq_ok_iff.1 read
  obtain rfl := Except.ok.inj same
  obtain ⟨filters, listed, held⟩ := holds_filter.taken filter
  exact .inr ⟨d, filters, by rw [goesOn, goesOn', goesOn'']; rfl, listed, held⟩

end RequestDraft

/-- The entries of the filter section of a request, if it has one. -/
def Request.filterDocs (d : Doc) : List Doc :=
  (d.place? (Section.spellings .filter) 2).elim [] Doc.items

theorem Request.forall₂_filterDocs {d : Doc} {r : Request} (accepted : Request.ofDoc d = .ok r) :
    List.Forall₂ (fun entry item => FilterItem.ofDoc entry = .ok item) (Request.filterDocs d)
      r.filter := by
  obtain ⟨draft, read, rfl⟩ := map_eq_ok_iff.1 accepted
  have placed : d.place? (Section.spellings .filter) 2 = none ∧ draft.filter = none ∨
      ∃ entries filters, d.place? (Section.spellings .filter) 2 = some entries ∧
        Doc.asList FilterItem.ofDoc entries = .ok filters ∧ draft.filter = some filters := by
    cases d with
    | array items => exact RequestDraft.filter_of_readSections read
    | object members =>
        have listed : Section.filter ∈ Section.all := by decide
        have spelled := placeOf?_eq_some_iff
          (fun s _ other _ => Section.spellings_apart s other) listed
        exact RequestDraft.holds_filter.valueOf? RequestDraft.placesReader spelled rfl rfl read
    | _ => exact (Doc.not_mismatch _ _ read).elim
  show List.Forall₂ _ (filterDocs d) (draft.filter.getD [])
  rw [filterDocs]
  rcases placed with ⟨absent, none⟩ | ⟨entries, filters, there, listed, held⟩
  · rw [absent, none]
    exact .nil
  · rw [there, held]
    exact Doc.forall₂_of_asList listed

/-! What becomes of a number. -/

/-- A number that is a condition is kept as its text. -/
theorem EntryDraft.exists_number {n : Numeral} {text : String}
    (read : readCondition (.number n) = .ok text) :
    ∃ number, n.read = .ok number ∧ text = number.render := by
  obtain ⟨value, valued, read⟩ := bind_eq_ok_iff.1 read
  obtain ⟨number, numbered, rfl⟩ := map_eq_ok_iff.1 valued
  obtain rfl := Except.ok.inj read
  rw [Numeral.reading] at numbered
  split at numbered
  · next kept =>
    obtain rfl := Except.ok.inj numbered
    exact ⟨_, kept, rfl⟩
  · cases numbered

/-- The literal of every filter stands in the query of every surviving table. -/
theorem Schema.exists_filter {s : Schema} (built : s.Built) {t : FactTable}
    (member : t ∈ s.facts.values) {r : Request} {o : Options} {e : Entry}
    (survives : (s.plan r o).live.get? t.name = some e) {item : FilterItem}
    (asked : item ∈ r.filter) :
    ∃ column, .binary item.op column (.raw item.condition) ∈ (e.toQuery t.name).filters := by
  obtain ⟨serves, rfl⟩ := (plan_live_eq_some_iff built.sound member).1 survives
  rw [← serves.map_fst_filters] at asked
  obtain ⟨p, listed, rfl⟩ := List.mem_map.1 asked
  have stands := ((t.course s o r).toQuery_filters t t.name).mem_iff.2 (List.mem_map_of_mem listed)
  exact ⟨_, stands⟩

namespace Request

/-- A condition that is a number token becomes a literal that denotes the number of the token
exactly if the number is kept, as integers of 64 bits and short numbers are; and the literal is
written into the query of every surviving table. -/
theorem ofText_literals {text : String} {r : Request} (accepted : Request.ofText text = .ok r) :
    (∃ d : Doc, d.Writes text ∧
      List.Forall₂ (fun entry item => ∀ n, FilterItem.conditionDoc? entry = some (.number n) →
        (∃ v, Denotes item.condition v) ∧ (Denotes item.condition n.value ↔ n.Kept) ∧
          (n.Integral ∨ n.Short → Denotes item.condition n.value)) (filterDocs d) r.filter) ∧
      ∀ s : Schema, s.Built → ∀ t ∈ s.facts.values, ∀ o e,
        (s.plan r o).live.get? t.name = some e → ∀ item ∈ r.filter,
          ∃ column, .binary item.op column (.raw item.condition) ∈ (e.toQuery t.name).filters := by
  obtain ⟨⟨d, parsed, read⟩, -⟩ := ofText_eq_ok_iff.1 accepted
  refine ⟨⟨d, writes_of_ofText parsed (readsWhole_ofDoc d r read), ?_⟩, ?_⟩
  · refine (forall₂_filterDocs read).imp fun entry item read n token => ?_
    obtain ⟨condition, there, stored⟩ := FilterItem.exists_conditionDoc read
    obtain rfl := Option.some.inj (there.symm.trans token)
    obtain ⟨number, kept, rendered⟩ := EntryDraft.exists_number stored
    have exact := Numeral.denotes_iff_kept kept
    rw [rendered]
    refine ⟨⟨_, number.denotes_render⟩, exact, fun plain => exact.2 ?_⟩
    exact plain.elim .inl (Numeral.kept_of_short kept)
  · exact fun s built t member o e survives item asked =>
      Schema.exists_filter built member survives asked

/-! A price, and a key that does not fit into 64 bits. -/

/-- The members of a filter that compares with a number. -/
def numberMembers (field op : String) (n : Numeral) : List (RawText × Doc) :=
  [plainMember "field_name" (.text (.written field)), plainMember "where" (.text (.written op)),
    plainMember "condition" (.number n)]

theorem spells_written (names : List String) (name : String) :
    RawText.spells names (.written name) = names.contains name := by
  rw [RawText.spells, RawText.read_written]

theorem filterDocs_filterDoc (ms : List (RawText × Doc)) :
    filterDocs (filterDoc ms) = [.object (.ofList ms)] := by
  have there : (filterDoc ms).place? (Section.spellings .filter) 2 =
      some (.array (.ofList [.object (.ofList ms)])) := by
    simp [filterDoc, Doc.place?, Members.ofList, plainMember, Members.valueOf?, spells_written,
      Section.spellings]
  rw [filterDocs, there]
  rfl

theorem conditionDoc?_numberMembers (field op : String) (n : Numeral) :
    FilterItem.conditionDoc? (.object (.ofList (numberMembers field op n))) =
      some (.number n) := by
  simp [FilterItem.conditionDoc?, Doc.place?, Members.ofList, numberMembers, plainMember,
    Members.valueOf?, spells_written, EntryKey.spellings]

theorem numberMembers_whole (field op : String) (n : Numeral) :
    (Members.ofList (numberMembers field op n)).Whole :=
  ⟨rfl, rfl, rfl, rfl, rfl, trivial, rfl⟩

/-- The one filter of a text that compares with a number. -/
theorem eq_filterDoc {text field op : String} {n : Numeral}
    (tokens : Token.ofText text = (filterDoc (numberMembers field op n)).tokens) {d : Doc}
    (writes : d.Writes text) : d = filterDoc (numberMembers field op n) := by
  have written := filterDoc_writes (numberMembers_whole field op n) tokens
  exact (Parsed.mk.inj (writes.ofText.symm.trans written.ofText)).1

def priceText : String :=
  "\x7b\"WHERE\":[\x7b\"field_name\":\"price\",\"where\":\"<\",\"condition\":19.90\x7d]\x7d"

/-- The number `19.90`. -/
def price : Numeral := ⟨false, ['1', '9'], some ['9', '0'], none⟩

theorem ofText_literals_price :
    Request.ofText priceText = .ok ⟨[], [], [⟨"price", .lt, "19.9"⟩]⟩ ∧
      Denotes "19.9" price.value := by
  have accepted : Request.ofText priceText = .ok ⟨[], [], [⟨"price", .lt, "19.9"⟩]⟩ := by
    decide +kernel
  have tokens : Token.ofText priceText = (filterDoc (numberMembers "price" "<" price)).tokens := by
    decide +kernel
  have short : price.Short := by constructor <;> decide
  obtain ⟨⟨d, writes, literals⟩, -⟩ := ofText_literals accepted
  rw [eq_filterDoc tokens writes, filterDocs_filterDoc] at literals
  obtain ⟨literal, -⟩ := List.forall₂_cons.1 literals
  obtain ⟨-, -, denotes⟩ := literal _ (conditionDoc?_numberMembers ..)
  exact ⟨accepted, denotes (.inr short)⟩

def wideText : String :=
  "\x7b\"WHERE\":[\x7b\"field_name\":\"id\",\"where\":\"=\"," ++
    "\"condition\":36893488147419103233\x7d]\x7d"

/-- A whole number of 66 bits. -/
def wide : Numeral := ⟨false, "36893488147419103233".toList, none, none⟩

theorem wide_not_kept : ¬ wide.Kept := by
  rintro (integral | ⟨x, magnitude, same⟩)
  · have fits : ¬ decimalDigits wide.whole < 2 ^ 64 := by decide +kernel
    exact fits integral.fits
  · have found : wide.magnitude? = some ⟨4503599627370496, 13⟩ := by decide +kernel
    obtain rfl := Option.some.inj (magnitude.symm.trans found)
    have shortest : (⟨4503599627370496, 13⟩ : Binary).shortest .toEven =
        ⟨36893488147419103, 3⟩ := by decide +kernel
    have decimal : wide.decimal = ⟨36893488147419103233, 0⟩ := by decide +kernel
    rw [shortest, decimal] at same
    norm_num [Decimal.value] at same

/-- A number of more than 64 bits is not always kept, so not every literal denotes its number. -/
theorem not_ofText_literals : ¬ ∀ (text : String) (r : Request), Request.ofText text = .ok r →
    ∃ d : Doc, d.Writes text ∧
      List.Forall₂ (fun entry item => ∀ n, FilterItem.conditionDoc? entry = some (.number n) →
        Denotes item.condition n.value) (filterDocs d) r.filter := by
  intro all
  have accepted : Request.ofText wideText =
      .ok ⟨[], [], [⟨"id", .eq, "3.6893488147419103e+19"⟩]⟩ := by decide +kernel
  have tokens : Token.ofText wideText = (filterDoc (numberMembers "id" "=" wide)).tokens := by
    decide +kernel
  have read : wide.read = .ok (.float false ⟨4503599627370496, 13⟩) := by decide +kernel
  have rendered : (Number.float false ⟨4503599627370496, 13⟩).render =
      "3.6893488147419103e+19" := by decide +kernel
  obtain ⟨d, writes, literals⟩ := all _ _ accepted
  rw [eq_filterDoc tokens writes, filterDocs_filterDoc] at literals
  obtain ⟨literal, -⟩ := List.forall₂_cons.1 literals
  have denotes := literal _ (conditionDoc?_numberMembers ..)
  exact wide_not_kept ((Numeral.denotes_iff_kept read).1 (rendered ▸ denotes))

end Request

end StarPlan
