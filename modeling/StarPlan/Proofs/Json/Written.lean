import StarPlan.Proofs.Json.Text

/-!
# Written values are read back

Reading goes in two steps, and each has its own relation to what was written. Characters spell
tokens (`Spells`), and tokens build a document (`Builds`), in both cases whatever follows them;
so pieces of a text that stand side by side can be treated one by one. Both steps run on fuel,
and the relations ask for no more of it than the readers of whole texts are given.

`Value.WrittenAs` puts the two together for the text of a value, and `readText_render` says that
reading such a text comes to reading its document.
-/

namespace StarPlan.Json

/-- The characters are read as the tokens. -/
structure Spells (cs : List Char) (ts : List Token) : Prop where
  short : ts.length ≤ cs.length
  reads : ∀ rest fuel, tokens (cs ++ rest) (fuel + ts.length) = ts ++ tokens rest fuel

namespace Spells

variable {cs cs' : List Char} {ts ts' : List Token}

theorem append (h : Spells cs ts) (h' : Spells cs' ts') : Spells (cs ++ cs') (ts ++ ts') where
  short := by
    have first := h.short
    have second := h'.short
    simp only [List.length_append]
    omega
  reads := by
    intro rest fuel
    have fuels : fuel + (ts ++ ts').length = fuel + ts'.length + ts.length := by
      rw [List.length_append]
      omega
    rw [fuels, List.append_assoc, h.reads, h'.reads, List.append_assoc]

/-- A token begins at every character that is no blank. -/
theorem token {c : Char} {t : Token} (solid : isSpace c = false)
    (scans : ∀ rest, scanToken c (cs ++ rest) = (t, rest)) : Spells (c :: cs) [t] where
  short := Nat.succ_le_succ (Nat.zero_le _)
  reads := by
    intro rest fuel
    show tokens (c :: (cs ++ rest)) (fuel + 1) = t :: tokens rest fuel
    rw [tokens, solid, scans]
    rfl

theorem text (s : String) : Spells (writeText s) [.text (.written s)] := by
  refine token rfl fun rest => ?_
  rw [List.append_assoc]
  show (Token.text (RawText.scan _).1, (RawText.scan _).2) = _
  rw [List.singleton_append, RawText.scan_writeText]

theorem openArray : Spells ['['] [.openArray] := token rfl fun _ => rfl

theorem closeArray : Spells [']'] [.closeArray] := token rfl fun _ => rfl

theorem openObject : Spells ['{'] [.openObject] := token rfl fun _ => rfl

theorem closeObject : Spells ['}'] [.closeObject] := token rfl fun _ => rfl

theorem comma : Spells [','] [.comma] := token rfl fun _ => rfl

theorem colon : Spells [':'] [.colon] := token rfl fun _ => rfl

theorem ofText {text : String} (h : Spells text.toList ts) : Token.ofText text = ts := by
  have whole := h.reads [] (text.toList.length - ts.length)
  rw [List.append_nil, Nat.sub_add_cancel h.short, tokens.eq_def] at whole
  rw [Token.ofText, tokens.eq_def, whole]
  cases text.toList.length - ts.length <;> simp [tokens]

end Spells

/-- The tokens are read as the document. The first of them does not close an array, so that the
document is not taken for the end of one. -/
structure Builds (ts : List Token) (d : Doc) : Prop where
  opens : ∃ t rest, ts = t :: rest ∧ t ≠ .closeArray
  builds : ∀ rest fuel, 2 * ts.length ≤ fuel → Doc.build fuel (ts ++ rest) = (d, rest)

/-- The tokens are read as items and the bracket behind them. -/
structure BuildsItems (ts : List Token) (items : Items) : Prop where
  opens : ∃ t rest, ts = t :: rest ∧ t ≠ .closeArray
  builds : ∀ rest fuel, 2 * ts.length ≤ fuel → Items.build fuel (ts ++ rest) = (items, rest)

/-- The tokens are read as members and the bracket behind them. -/
structure BuildsMembers (ts : List Token) (members : Members) : Prop where
  opens : ∃ key rest, ts = .text key :: rest
  builds : ∀ rest fuel afterComma, 2 * ts.length ≤ fuel →
    Members.build fuel afterComma (ts ++ rest) = (members, rest)

/-- One step down, the fuel for one token more is still enough for the others. -/
private theorem exists_less {n fuel : Nat} (enough : 2 * (n + 1) ≤ fuel) :
    ∃ less, fuel = less + 1 ∧ 2 * n < less :=
  ⟨fuel - 1, by omega, by omega⟩

theorem Doc.build_array {t : Token} (opens : t ≠ .closeArray) (fuel : Nat) (ts : List Token) :
    Doc.build (fuel + 1) (.openArray :: t :: ts) =
      (.array (Items.build fuel (t :: ts)).1, (Items.build fuel (t :: ts)).2) := by
  cases t with
  | closeArray => exact absurd rfl opens
  | _ => rfl

theorem Items.build_more {t : Token} (opens : t ≠ .closeArray) {fuel : Nat} {ts rest : List Token}
    {d : Doc} (head : Doc.build fuel ts = (d, .comma :: t :: rest)) :
    Items.build (fuel + 1) ts =
      (.item d (Items.build fuel (t :: rest)).1, (Items.build fuel (t :: rest)).2) := by
  rw [Items.build, head]
  cases t with
  | closeArray => exact absurd rfl opens
  | _ => rfl

/-! One lemma for each way in which a reader goes on. -/

section

variable {ts ts' : List Token} {d : Doc} {items : Items} {members : Members}

theorem Builds.text (raw : RawText) : Builds [.text raw] (.text raw) where
  opens := ⟨_, _, rfl, nofun⟩
  builds := by
    intro rest fuel enough
    obtain ⟨fuel, rfl, -⟩ := exists_less enough
    rfl

theorem Builds.emptyArray : Builds [.openArray, .closeArray] (.array (.done .closed)) where
  opens := ⟨_, _, rfl, nofun⟩
  builds := by
    intro rest fuel enough
    obtain ⟨fuel, rfl, -⟩ := exists_less enough
    rfl

theorem BuildsItems.last (h : Builds ts d) :
    BuildsItems (ts ++ [.closeArray]) (.item d (.done .closed)) where
  opens := by
    obtain ⟨t, tail, rfl, opens⟩ := h.opens
    exact ⟨t, tail ++ [.closeArray], rfl, opens⟩
  builds := by
    intro rest fuel enough
    rw [List.length_append, List.length_singleton] at enough
    obtain ⟨fuel, rfl, enough⟩ := exists_less enough
    rw [List.append_assoc, Items.build, h.builds _ fuel (by omega)]
    rfl

theorem BuildsItems.more (h : Builds ts d) (h' : BuildsItems ts' items) :
    BuildsItems (ts ++ .comma :: ts') (.item d items) where
  opens := by
    obtain ⟨t, tail, rfl, opens⟩ := h.opens
    exact ⟨t, tail ++ .comma :: ts', rfl, opens⟩
  builds := by
    intro rest fuel enough
    rw [List.length_append, List.length_cons] at enough
    obtain ⟨fuel, rfl, enough⟩ := exists_less enough
    have head := h.builds (.comma :: (ts' ++ rest)) fuel (by omega)
    have tail := h'.builds rest fuel (by omega)
    obtain ⟨t, ts', rfl, opens⟩ := h'.opens
    rw [List.cons_append] at head tail
    rw [List.append_assoc, List.cons_append, List.cons_append, Items.build_more opens head, tail]

theorem Builds.array (h : BuildsItems ts items) : Builds (.openArray :: ts) (.array items) where
  opens := ⟨_, _, rfl, nofun⟩
  builds := by
    intro rest fuel enough
    rw [List.length_cons] at enough
    obtain ⟨fuel, rfl, enough⟩ := exists_less enough
    have inside := h.builds rest fuel (by omega)
    obtain ⟨t, ts, rfl, opens⟩ := h.opens
    rw [List.cons_append] at inside
    rw [List.cons_append, List.cons_append, Doc.build_array opens, inside]

theorem BuildsMembers.last (key : RawText) (h : Builds ts d) :
    BuildsMembers (.text key :: .colon :: (ts ++ [.closeObject]))
      (.member key d (.done .closed)) where
  opens := ⟨key, _, rfl⟩
  builds := by
    intro rest fuel afterComma enough
    simp only [List.length_cons, List.length_append, List.length_nil] at enough
    obtain ⟨fuel, rfl, enough⟩ := exists_less enough
    have value := h.builds (.closeObject :: rest) fuel (by omega)
    simp only [List.cons_append, List.append_assoc, List.nil_append, Members.build, value]

theorem BuildsMembers.more (key : RawText) (h : Builds ts d) (h' : BuildsMembers ts' members) :
    BuildsMembers (.text key :: .colon :: (ts ++ .comma :: ts')) (.member key d members) where
  opens := ⟨key, _, rfl⟩
  builds := by
    intro rest fuel afterComma enough
    simp only [List.length_cons, List.length_append] at enough
    obtain ⟨fuel, rfl, enough⟩ := exists_less enough
    have value := h.builds (.comma :: (ts' ++ rest)) fuel (by omega)
    have tail := h'.builds rest fuel true (by omega)
    simp only [List.cons_append, List.append_assoc, Members.build, value, tail]

theorem Builds.object (h : BuildsMembers ts members) :
    Builds (.openObject :: ts) (.object members) where
  opens := ⟨_, _, rfl, nofun⟩
  builds := by
    intro rest fuel enough
    rw [List.length_cons] at enough
    obtain ⟨fuel, rfl, enough⟩ := exists_less enough
    have inside := h.builds rest fuel false (by omega)
    obtain ⟨key, ts, rfl⟩ := h.opens
    rw [List.cons_append] at inside
    rw [List.cons_append, List.cons_append, Doc.build, inside]
    exact nofun

end

/-- The text of the value is read as the document. -/
def Value.WrittenAs (v : Value) (d : Doc) : Prop :=
  ∃ ts, Spells v.write ts ∧ Builds ts d

/-- The text of the items of an array is read as the items. -/
def Items.Written (vs : List Value) (items : Items) : Prop :=
  ∃ ts, Spells (writeItems vs ++ [']']) ts ∧ BuildsItems ts items

/-- The text of the members of an object is read as the members. -/
def Members.Written (vs : List (String × Value)) (members : Members) : Prop :=
  ∃ ts, Spells (writeMembers vs ++ ['}']) ts ∧ BuildsMembers ts members

section

variable {v : Value} {d : Doc}

theorem Value.WrittenAs.text (s : String) : (Value.text s).WrittenAs (.text (.written s)) :=
  ⟨_, .text s, .text _⟩

theorem Value.WrittenAs.emptyArray : (Value.array []).WrittenAs (.array (.done .closed)) :=
  ⟨_, Spells.openArray.append .closeArray, .emptyArray⟩

theorem Items.Written.last (h : v.WrittenAs d) : Items.Written [v] (.item d (.done .closed)) := by
  obtain ⟨ts, spells, builds⟩ := h
  exact ⟨_, spells.append .closeArray, .last builds⟩

theorem Items.Written.more (h : v.WrittenAs d) {w : Value} {vs : List Value} {items : Items}
    (h' : Items.Written (w :: vs) items) : Items.Written (v :: w :: vs) (.item d items) := by
  obtain ⟨ts, spells, builds⟩ := h
  obtain ⟨ts', spells', builds'⟩ := h'
  refine ⟨_, ?_, .more builds builds'⟩
  have all := spells.append (Spells.comma.append spells')
  simpa [writeItems] using all

theorem Value.WrittenAs.array {vs : List Value} {items : Items} (h : Items.Written vs items) :
    (Value.array vs).WrittenAs (.array items) := by
  obtain ⟨ts, spells, builds⟩ := h
  exact ⟨_, Spells.openArray.append spells, .array builds⟩

theorem Members.Written.last (key : String) (h : v.WrittenAs d) :
    Members.Written [(key, v)] (.member (.written key) d (.done .closed)) := by
  obtain ⟨ts, spells, builds⟩ := h
  refine ⟨_, ?_, BuildsMembers.last (.written key) builds⟩
  have all := (Spells.text key).append (Spells.colon.append (spells.append .closeObject))
  simpa [writeMembers] using all

theorem Members.Written.more (key : String) (h : v.WrittenAs d) {m : String × Value}
    {ms : List (String × Value)} {members : Members} (h' : Members.Written (m :: ms) members) :
    Members.Written ((key, v) :: m :: ms) (.member (.written key) d members) := by
  obtain ⟨ts, spells, builds⟩ := h
  obtain ⟨ts', spells', builds'⟩ := h'
  refine ⟨_, ?_, BuildsMembers.more (.written key) builds builds'⟩
  have all := (Spells.text key).append (Spells.colon.append
    (spells.append (Spells.comma.append spells')))
  simpa [writeMembers] using all

theorem Value.WrittenAs.object {ms : List (String × Value)} {members : Members}
    (h : Members.Written ms members) : (Value.object ms).WrittenAs (.object members) := by
  obtain ⟨ts, spells, builds⟩ := h
  exact ⟨_, Spells.openObject.append spells, .object builds⟩

/-- The whole text of a value is its document, with nothing behind it. -/
theorem readText_render {α : Type} (read : Doc → Reading α) (h : v.WrittenAs d) :
    readText read v.render = read d := by
  obtain ⟨ts, spells, builds⟩ := h
  have tokens : Token.ofText v.render = ts := by
    apply Spells.ofText
    rwa [Value.render, String.toList_ofList]
  have doc := builds.builds [] (2 * ts.length + 2) (Nat.le_add_right ..)
  rw [List.append_nil] at doc
  rw [readText, Parsed.ofText, tokens, doc]
  exact bind_pure (read d)

end

end StarPlan.Json
