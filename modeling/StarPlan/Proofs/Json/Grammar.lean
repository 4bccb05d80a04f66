import StarPlan.Proofs.Json.Lexing

/-!
# The texts of a document

A document is written as its tokens, one after another, each of them in one of its ways and with
blanks at will (`Doc.Writes`). Only a whole document is: one that breaks off nowhere
(`Doc.Whole`).

A text of a document is read as this document (`Doc.Writes.ofText`), so blanks, escapes and the
like make no difference to what is read. In turn every text that is read as a whole document,
with nothing behind it, is a text of this document (`writes_of_ofText`), so nothing that is read
lies outside the grammar.
-/

namespace StarPlan.Json

/-! Whole documents and their tokens. -/

mutual

/-- Whether a value breaks off nowhere. -/
def Doc.Whole : Doc → Prop
  | .null | .bool _ | .number _ => True
  | .text raw => raw.broken = none
  | .array items => items.Whole
  | .object members => members.Whole
  | .missing | .cutNumber | .broken _ => False

/-- Whether items break off nowhere. -/
def Items.Whole : Items → Prop
  | .done ending => ending = .closed
  | .item head tail => head.Whole ∧ tail.Whole

/-- Whether members break off nowhere. -/
def Members.Whole : Members → Prop
  | .done ending => ending = .closed
  | .noKey _ _ => False
  | .member key value tail => key.broken = none ∧ value.Whole ∧ tail.Whole

end

mutual

/-- The tokens of a value. -/
def Doc.tokens : Doc → List Token
  | .null => [.null]
  | .bool value => [.bool value]
  | .number numeral => [.number numeral]
  | .text raw => [.text raw]
  | .array items => .openArray :: items.tokens
  | .object members => .openObject :: members.tokens
  | .missing | .cutNumber | .broken _ => []

/-- The tokens of items and the bracket behind them. -/
def Items.tokens : Items → List Token
  | .done _ => [.closeArray]
  | .item head (.done _) => head.tokens ++ [.closeArray]
  | .item head tail => head.tokens ++ .comma :: tail.tokens

/-- The tokens of members and the bracket behind them. -/
def Members.tokens : Members → List Token
  | .done _ | .noKey _ _ => [.closeObject]
  | .member key value (.done _) => .text key :: .colon :: (value.tokens ++ [.closeObject])
  | .member key value tail => .text key :: .colon :: (value.tokens ++ .comma :: tail.tokens)

end

/-- A text is written for a document. -/
def Doc.Writes (d : Doc) (text : String) : Prop :=
  d.Whole ∧ Spelling d.tokens text.toList

/-! A text of a document is read as the document. -/

theorem Builds.emptyObject : Builds [.openObject, .closeObject] (.object (.done .closed)) where
  opens := ⟨_, _, rfl, nofun⟩
  builds := by
    intro rest fuel enough
    obtain _ | fuel := fuel
    · cases enough
    · rfl

/-- A value of one token. -/
theorem Builds.single {t : Token} {d : Doc} (opens : t ≠ .closeArray)
    (build : ∀ fuel rest, Doc.build (fuel + 1) (t :: rest) = (d, rest)) : Builds [t] d where
  opens := ⟨_, _, rfl, opens⟩
  builds := by
    intro rest fuel enough
    obtain _ | fuel := fuel
    · cases enough
    · exact build fuel rest

mutual

theorem Doc.builds_tokens : (d : Doc) → d.Whole → Builds d.tokens d
  | .null, _ | .bool _, _ | .number _, _ | .text _, _ => .single nofun fun _ _ => rfl
  | .array (.done ending), whole => by
      obtain rfl : ending = .closed := whole
      exact .emptyArray
  | .array (.item head tail), whole =>
    .array (Items.builds_tokens (.item head tail) whole nofun)
  | .object (.done ending), whole => by
      obtain rfl : ending = .closed := whole
      exact .emptyObject
  | .object (.member key value tail), whole =>
    .object (Members.builds_tokens (.member key value tail) whole nofun)

theorem Items.builds_tokens : (items : Items) → items.Whole → items ≠ .done .closed →
    BuildsItems items.tokens items
  | .done _, whole, nonempty => absurd (congrArg _ whole) nonempty
  | .item head (.done ending), ⟨first, later⟩, _ => by
      obtain rfl : ending = .closed := later
      exact .last (Doc.builds_tokens head first)
  | .item head (.item next tail), ⟨first, later⟩, _ =>
    .more (Doc.builds_tokens head first) (Items.builds_tokens (.item next tail) later nofun)

theorem Members.builds_tokens : (members : Members) → members.Whole →
    members ≠ .done .closed → BuildsMembers members.tokens members
  | .done _, whole, nonempty => absurd (congrArg _ whole) nonempty
  | .member key value (.done ending), ⟨_, first, later⟩, _ => by
      obtain rfl : ending = .closed := later
      exact .last key (Doc.builds_tokens value first)
  | .member key value (.member next value' tail), ⟨_, first, later⟩, _ =>
    .more key (Doc.builds_tokens value first)
      (Members.builds_tokens (.member next value' tail) later nofun)

end

/-- A text of a document is read as this document, with nothing behind it. -/
theorem Doc.Writes.ofText {d : Doc} {text : String} (writes : d.Writes text) :
    Parsed.ofText text = ⟨d, false⟩ := by
  obtain ⟨whole, spelling⟩ := writes
  have tokens : Token.ofText text = d.tokens := spelling.tokens_eq _ (Nat.le_refl _)
  have built := (d.builds_tokens whole).builds [] (2 * d.tokens.length + 2) (Nat.le_add_right ..)
  rw [List.append_nil] at built
  rw [Parsed.ofText, tokens, built]
  rfl

/-! What is read as a whole document is a text of it. -/

section

variable {fuel : Nat} {ts rest : List Token}

/-- With some fuel, what is read as a whole value begins with the tokens of the value. -/
def Doc.Reads (fuel : Nat) : Prop :=
  ∀ ts d rest, Doc.build fuel ts = (d, rest) → d.Whole → ts = d.tokens ++ rest

/-- With some fuel, what is read as whole items begins with the tokens of the items. -/
def Items.Reads (fuel : Nat) : Prop :=
  ∀ ts items rest, Items.build fuel ts = (items, rest) → items.Whole →
    (∃ head tail, items = .item head tail) ∧ ts = items.tokens ++ rest

/-- With some fuel, what is read as whole members begins with the tokens of the members. -/
def Members.Reads (fuel : Nat) : Prop :=
  ∀ ts afterComma members rest, Members.build fuel afterComma ts = (members, rest) →
    members.Whole → (∃ key value tail, members = .member key value tail) ∧
      ts = members.tokens ++ rest

theorem Doc.build_object (opens : ∀ rest, ts = .closeObject :: rest → False) :
    Doc.build (fuel + 1) (.openObject :: ts) =
      (.object (Members.build fuel false ts).1, (Members.build fuel false ts).2) := by
  rw [Doc.build]
  exact opens

theorem Doc.reads_succ (items : Items.Reads fuel) (members : Members.Reads fuel) :
    Doc.Reads (fuel + 1) := by
  intro ts d rest built whole
  cases ts with
  | nil =>
      obtain ⟨rfl, -⟩ := Prod.mk.inj built
      exact absurd whole id
  | cons t ts =>
      cases t with
      | null | bool _ | number _ | text _ =>
          obtain ⟨rfl, rfl⟩ := Prod.mk.inj built
          rfl
      | openArray =>
          cases ts with
          | nil =>
              obtain ⟨rfl, -⟩ := Prod.mk.inj built
              cases whole
          | cons t ts =>
              by_cases closes : t = .closeArray
              · subst closes
                obtain ⟨rfl, rfl⟩ := Prod.mk.inj built
                rfl
              · rw [Doc.build_array closes] at built
                obtain ⟨rfl, rfl⟩ := Prod.mk.inj built
                obtain ⟨-, eq⟩ := items _ _ _ rfl whole
                exact congrArg (Token.openArray :: ·) eq
      | openObject =>
          by_cases closes : ∃ rest, ts = .closeObject :: rest
          · obtain ⟨ts, rfl⟩ := closes
            obtain ⟨rfl, rfl⟩ := Prod.mk.inj built
            rfl
          · rw [Doc.build_object fun rest eq => closes ⟨rest, eq⟩] at built
            obtain ⟨rfl, rfl⟩ := Prod.mk.inj built
            obtain ⟨-, eq⟩ := members _ _ _ _ rfl whole
            exact congrArg (Token.openObject :: ·) eq
      | _ =>
          obtain ⟨rfl, -⟩ := Prod.mk.inj built
          exact absurd whole id

theorem Items.tokens_item (head : Doc) {items : Items}
    (goesOn : ∃ next tail, items = .item next tail) :
    (Items.item head items).tokens = head.tokens ++ .comma :: items.tokens := by
  obtain ⟨next, tail, rfl⟩ := goesOn
  rfl

theorem Members.tokens_member (key : RawText) (value : Doc) {members : Members}
    (goesOn : ∃ next value tail, members = .member next value tail) :
    (Members.member key value members).tokens =
      .text key :: .colon :: (value.tokens ++ .comma :: members.tokens) := by
  obtain ⟨next, value', tail, rfl⟩ := goesOn
  rfl

theorem Items.reads_succ (doc : Doc.Reads fuel) (items : Items.Reads fuel) :
    Items.Reads (fuel + 1) := by
  intro ts list rest built whole
  obtain ⟨head, behind, first⟩ : ∃ head behind, Doc.build fuel ts = (head, behind) :=
    ⟨_, _, rfl⟩
  rw [Items.build, first] at built
  dsimp only at built
  split at built
  · obtain ⟨rfl, rfl⟩ := Prod.mk.inj built
    refine ⟨⟨_, _, rfl⟩, ?_⟩
    rw [doc ts head _ first whole.1, tokens, List.append_assoc]
    rfl
  · obtain ⟨rfl, -⟩ := Prod.mk.inj built
    cases whole.2
  · obtain ⟨rfl, -⟩ := Prod.mk.inj built
    cases whole.2
  · next more _ _ =>
    obtain ⟨tail, after, later⟩ : ∃ tail after, Items.build fuel more = (tail, after) :=
      ⟨_, _, rfl⟩
    rw [later] at built
    obtain ⟨rfl, rfl⟩ := Prod.mk.inj built
    obtain ⟨goesOn, eq⟩ := items more tail _ later whole.2
    refine ⟨⟨_, _, rfl⟩, ?_⟩
    rw [doc ts head _ first whole.1, eq, tokens_item head goesOn, List.append_assoc]
    rfl
  · obtain ⟨rfl, -⟩ := Prod.mk.inj built
    cases whole.2

theorem Members.reads_succ (doc : Doc.Reads fuel) (members : Members.Reads fuel) :
    Members.Reads (fuel + 1) := by
  intro ts afterComma list rest built whole
  rw [Members.build.eq_def] at built
  split at built
  · cases ‹fuel + 1 = 0›
  · next key ts less =>
    obtain rfl := Nat.succ.inj less
    obtain ⟨value, behind, first⟩ : ∃ value behind, Doc.build fuel ts = (value, behind) :=
      ⟨_, _, rfl⟩
    rw [first] at built
    dsimp only at built
    split at built
    · obtain ⟨rfl, rfl⟩ := Prod.mk.inj built
      refine ⟨⟨_, _, _, rfl⟩, ?_⟩
      rw [doc ts value _ first whole.2.1, tokens]
      simp
    · next more =>
      obtain ⟨tail, after, later⟩ : ∃ tail after, Members.build fuel true more = (tail, after) :=
        ⟨_, _, rfl⟩
      rw [later] at built
      obtain ⟨rfl, rfl⟩ := Prod.mk.inj built
      obtain ⟨goesOn, eq⟩ := members more _ tail _ later whole.2.2
      refine ⟨⟨_, _, _, rfl⟩, ?_⟩
      rw [doc ts value _ first whole.2.1, eq, tokens_member key value goesOn]
      simp
    · obtain ⟨rfl, -⟩ := Prod.mk.inj built
      cases whole.2.2
  -- What does not begin as a member cuts the object off, and a cut object is not whole.
  · obtain ⟨rfl, -⟩ := Prod.mk.inj built
    exact absurd whole.2.1 id
  · obtain ⟨rfl, -⟩ := Prod.mk.inj built
    exact absurd whole.2.1 id
  · obtain ⟨rfl, -⟩ := Prod.mk.inj built
    cases whole
  · obtain ⟨rfl, -⟩ := Prod.mk.inj built
    exact absurd whole id

theorem reads (fuel : Nat) : Doc.Reads fuel ∧ Items.Reads fuel ∧ Members.Reads fuel := by
  induction fuel with
  | zero =>
      refine ⟨?_, ?_, ?_⟩
      · intro ts d rest built whole
        obtain ⟨rfl, -⟩ := Prod.mk.inj built
        exact absurd whole id
      · intro ts items rest built whole
        obtain ⟨rfl, -⟩ := Prod.mk.inj built
        cases whole
      · intro ts afterComma members rest built whole
        obtain ⟨rfl, -⟩ := Prod.mk.inj built
        cases whole
  | succ fuel ih =>
      obtain ⟨doc, items, members⟩ := ih
      exact ⟨Doc.reads_succ items members, Items.reads_succ doc items,
        Members.reads_succ doc members⟩

end

mutual

theorem Doc.whole_tokens : (d : Doc) → d.Whole → ∀ t ∈ d.tokens, t.Whole
  | .null, _ | .bool _, _ | .number _, _ => List.forall_mem_singleton.2 trivial
  | .text _, whole => List.forall_mem_singleton.2 whole
  | .array items, whole =>
    List.forall_mem_cons.2 ⟨trivial, Items.whole_tokens items whole⟩
  | .object members, whole =>
    List.forall_mem_cons.2 ⟨trivial, Members.whole_tokens members whole⟩

theorem Items.whole_tokens : (items : Items) → items.Whole → ∀ t ∈ items.tokens, t.Whole
  | .done _, _ => List.forall_mem_singleton.2 trivial
  | .item head (.done _), ⟨first, _⟩ => List.forall_mem_append.2
    ⟨Doc.whole_tokens head first, List.forall_mem_singleton.2 trivial⟩
  | .item head (.item next tail), ⟨first, later⟩ => List.forall_mem_append.2
    ⟨Doc.whole_tokens head first,
      List.forall_mem_cons.2 ⟨trivial, Items.whole_tokens (.item next tail) later⟩⟩

theorem Members.whole_tokens : (members : Members) → members.Whole →
    ∀ t ∈ members.tokens, t.Whole
  | .done _, _ => List.forall_mem_singleton.2 trivial
  | .member _ value (.done _), ⟨key, first, _⟩ => List.forall_mem_cons.2 ⟨key,
    List.forall_mem_cons.2 ⟨trivial, List.forall_mem_append.2
      ⟨Doc.whole_tokens value first, List.forall_mem_singleton.2 trivial⟩⟩⟩
  | .member _ value (.member next value' tail), ⟨key, first, later⟩ =>
    List.forall_mem_cons.2 ⟨key, List.forall_mem_cons.2 ⟨trivial, List.forall_mem_append.2
      ⟨Doc.whole_tokens value first, List.forall_mem_cons.2
        ⟨trivial, Members.whole_tokens (.member next value' tail) later⟩⟩⟩⟩

end

/-- A text is written for a whole document if it is read as its tokens. -/
theorem Doc.Whole.writes {d : Doc} (whole : d.Whole) {text : String}
    (read : Token.ofText text = d.tokens) : d.Writes text := by
  have spelling : Spelling (Token.ofText text) text.toList := by
    refine spelling_of_tokens (Nat.le_refl _) ?_
    show ∀ t ∈ Token.ofText text, t.Whole
    rw [read]
    exact d.whole_tokens whole
  exact ⟨whole, read ▸ spelling⟩

/-- Every text that is read as a whole document, with nothing behind it, is a text of the
document. -/
theorem writes_of_ofText {d : Doc} {text : String} (parsed : Parsed.ofText text = ⟨d, false⟩)
    (whole : d.Whole) : d.Writes text := by
  obtain ⟨⟨read, rest⟩, built⟩ : ∃ result,
      Doc.build (2 * (Token.ofText text).length + 2) (Token.ofText text) = result := ⟨_, rfl⟩
  rw [Parsed.ofText, built] at parsed
  obtain ⟨rfl, trailing⟩ := Parsed.mk.inj parsed
  obtain rfl : rest = [] := by simpa using trailing
  have eq := (reads _).1 _ _ _ built whole
  rw [List.append_nil] at eq
  exact whole.writes eq

end StarPlan.Json
