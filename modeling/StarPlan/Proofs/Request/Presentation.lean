import Mathlib.Logic.Relation
import StarPlan.Proofs.Json.Rewriting
import StarPlan.Request.Text

/-!
# How a request is presented does not matter

The same request can be written in many ways: with other blanks and escapes, with the members of
the request and of its entries in another order, with another of the accepted spellings of a
key, and with more members in an entry, if their keys are none of the accepted ones.
`Request.Rewrites` relates two texts of which one is such a way to write the other.

An accepted text stays accepted, with the same request, however often it is written anew
(`Request.ofText_rewritten`). This rests on two things: a text of the grammar is read as its
document, and the readers of requests and entries fill places.
-/

namespace StarPlan

open Json

/-! The entries of a request fill places. -/

namespace EntryDraft

variable {e e' : EntryDraft} {key other : EntryKey} {d d' : Doc}

/-- One member taken over from another draft. -/
def put (e u : EntryDraft) : EntryKey → EntryDraft
  | .field => { e with field := u.field }
  | .calculation => { e with calculation := u.calculation }
  | .op => { e with op := u.op }
  | .condition => { e with condition := u.condition }

theorem set_eq_ok_iff : e.set key d = .ok e' ↔ ∃ u, empty.set key d = .ok u ∧ e.put u key = e' := by
  have eq : e.set key d = (e.put · key) <$> empty.set key d := by
    cases key with
    | field => cases read : d.asText <;> simp only [set, read] <;> rfl
    | calculation => cases read : Calculation.ofDoc d <;> simp only [set, read] <;> rfl
    | op => cases read : Comparison.ofDoc d <;> simp only [set, read] <;> rfl
    | condition => cases read : readCondition d <;> simp only [set, read] <;> rfl
  rw [eq, map_eq_ok_iff]

theorem has_of_set (result : e.set key d = .ok e') : e'.has key = true := by
  cases key <;> obtain ⟨_, -, result⟩ := bind_eq_ok_iff.1 result <;>
    obtain rfl := Except.ok.inj result <;> rfl

theorem placeLaws : PlaceLaws has set := by
  refine .of_put put empty set_eq_ok_iff has_of_set ?_ ?_
  · intro e u a b differs
    cases a <;> cases b <;> first | rfl | exact absurd rfl differs
  · intro e u v a b differs
    cases a <;> cases b <;> first | rfl | exact absurd rfl differs

theorem placesReader (keys : List EntryKey) :
    PlacesReader (readMember keys) (placeOf? keys EntryKey.spellings) has set Doc.Whole := by
  refine .of_eq placeLaws (.repeatedMember ·.name) ?_ ?_
  · intro name d e key found
    rw [readMember, show keys.find? (·.spellings.contains name) = some key from found]
  · intro name d e e' unknown
    rw [readMember, show keys.find? (·.spellings.contains name) = none from unknown,
      ← Doc.skip_eq_ok_iff]
    exact bind_eq_ok_iff.trans ⟨fun ⟨_, skipped, same⟩ => ⟨skipped, (Except.ok.inj same).symm⟩,
      fun ⟨skipped, same⟩ => ⟨(), skipped, same ▸ rfl⟩⟩

theorem spellings_apart (key other : EntryKey) :
    ∀ name ∈ key.spellings, name ∈ other.spellings → key = other := by
  cases key <;> cases other <;> decide

end EntryDraft

/-- The ways to write an entry anew. -/
inductive EntryShape.Rewrite (s : EntryShape) : Doc → Doc → Prop
  | members {ms ms' : List (RawText × Doc)}
    (rewrite : MembersRewrite s.keys EntryKey.spellings Doc.Whole ms ms') :
    Rewrite s (.object (.ofList ms)) (.object (.ofList ms'))

theorem EntryShape.readsAs {s : EntryShape} {d d' : Doc} (rewrite : s.Rewrite d d') :
    ReadsAs s.read d d' := by
  obtain ⟨rewrite⟩ := rewrite
  exact fun e result => (EntryDraft.placesReader s.keys).readInto_rewrite
    (fun key _ other _ => EntryDraft.spellings_apart key other) rewrite result

/-! So do its sections. -/

/-- What the entries of a section are. -/
def Section.shape : Section → EntryShape
  | select => .select
  | aggregate => .aggregate
  | filter => .filter

theorem Section.spellings_apart (s other : Section) :
    ∀ name ∈ s.spellings, name ∈ other.spellings → s = other := by
  cases s <;> cases other <;> decide

namespace RequestDraft

variable {r r' : RequestDraft} {s other : Section} {d d' : Doc}

/-- One section taken over from another draft. -/
def put (r u : RequestDraft) : Section → RequestDraft
  | .select => { r with select := u.select }
  | .aggregate => { r with aggregate := u.aggregate }
  | .filter => { r with filter := u.filter }

theorem set_eq_ok_iff : r.set s d = .ok r' ↔ ∃ u, empty.set s d = .ok u ∧ r.put u s = r' := by
  have eq : r.set s d = (r.put · s) <$> empty.set s d := by
    cases s with
    | select => cases read : d.asList readSelect <;> simp only [set, read] <;> rfl
    | aggregate => cases read : d.asList AggregateItem.ofDoc <;> simp only [set, read] <;> rfl
    | filter => cases read : d.asList FilterItem.ofDoc <;> simp only [set, read] <;> rfl
  rw [eq, map_eq_ok_iff]

theorem has_of_set (result : r.set s d = .ok r') : r'.has s = true := by
  cases s <;> obtain ⟨_, -, result⟩ := bind_eq_ok_iff.1 result <;>
    obtain rfl := Except.ok.inj result <;> rfl

theorem placeLaws : PlaceLaws has set := by
  refine .of_put put empty set_eq_ok_iff has_of_set ?_ ?_
  · intro r u a b differs
    cases a <;> cases b <;> first | rfl | exact absurd rfl differs
  · intro r u v a b differs
    cases a <;> cases b <;> first | rfl | exact absurd rfl differs

/-- A key that names no section is refused. -/
theorem placesReader :
    PlacesReader readMember (placeOf? Section.all Section.spellings) has set
      fun _ => False := by
  refine .of_eq placeLaws (.repeatedMember ·.name) ?_ ?_
  · intro name d r s found
    rw [readMember, show Section.ofKey? name = some s from found]
  · intro name d r r' unknown
    rw [readMember, show Section.ofKey? name = none from unknown]
    exact ⟨nofun, fun h => h.1.elim⟩

/-- A section is read as the one in which an entry is written anew. -/
theorem set_readsAs {s : Section} {entry entry' : Doc} (rewrite : s.shape.Rewrite entry entry')
    (ahead behind : List Doc) (r : RequestDraft) :
    ReadsAs (r.set s) (.array (.ofList (ahead ++ entry :: behind)))
      (.array (.ofList (ahead ++ entry' :: behind))) := by
  have read := EntryShape.readsAs rewrite
  cases s with
  | select => exact ((read.bind _).asList ahead behind).bind _
  | aggregate => exact ((read.bind _).asList ahead behind).bind _
  | filter => exact ((read.bind _).asList ahead behind).bind _

theorem readSections_cons (s : Section) (rest : List Section) (d : Doc) (ds : List Doc)
    (r : RequestDraft) :
    readSections (s :: rest) (.ofList (d :: ds)) r =
      r.set s d >>= readSections rest (.ofList ds) :=
  rfl

/-- So is a request that is an array of sections. -/
theorem readSections_replace {s : Section} {d d' : Doc}
    (same : ∀ r : RequestDraft, ReadsAs (r.set s) d d') {front back : List Doc}
    {sections : List Section} (there : sections[front.length]? = some s) {r r' : RequestDraft}
    (result : readSections sections (.ofList (front ++ d :: back)) r = .ok r') :
    readSections sections (.ofList (front ++ d' :: back)) r = .ok r' := by
  induction front generalizing sections r with
  | nil =>
      obtain _ | ⟨first, rest⟩ := sections
      · cases there
      obtain rfl := Option.some.inj there
      rw [List.nil_append, readSections_cons] at result ⊢
      exact (same r).bind _ r' result
  | cons _ front ih =>
      obtain _ | ⟨first, rest⟩ := sections
      · cases there
      rw [List.cons_append, readSections_cons] at result ⊢
      obtain ⟨r₁, read, rest⟩ := bind_eq_ok_iff.1 result
      exact bind_eq_ok_iff.2 ⟨r₁, read, ih there rest⟩

end RequestDraft

/-! Accepted requests are whole documents. -/

namespace EntryDraft

theorem readsWhole_set (e : EntryDraft) (key : EntryKey) : ReadsWhole (e.set key) := by
  cases key with
  | field => exact readsWhole_asText.bind _
  | calculation => exact ReadsWhole.bind (readsWhole_asText.bind _) _
  | op => exact ReadsWhole.bind (readsWhole_asText.bind _) _
  | condition =>
      have value : ReadsWhole (Doc.value conditionDepth) := fun d v => d.whole_of_value _ v
      exact ReadsWhole.bind (value.bind _) _

end EntryDraft

namespace EntryShape

theorem whole_of_readValues (s : EntryShape) {keys : List EntryKey} {items : Items}
    {e e' : EntryDraft} (read : s.readValues keys items e = .ok e') : items.Whole := by
  induction keys generalizing items e with
  | nil =>
      obtain ⟨_, done, -⟩ := bind_eq_ok_iff.1 read
      exact Items.whole_of_finish done
  | cons key keys ih =>
      obtain ⟨next, found, read⟩ := bind_eq_ok_iff.1 read
      obtain _ | ⟨d, rest⟩ := next
      · cases read
      · obtain ⟨e₁, first, later⟩ := bind_eq_ok_iff.1 read
        rw [Items.next?_eq_some found]
        exact ⟨e.readsWhole_set key d e₁ first, ih later⟩

theorem readsWhole_read (s : EntryShape) : ReadsWhole s.read := by
  intro d e read
  cases d with
  | array items => exact s.whole_of_readValues read
  | object members =>
      exact Members.whole_of_readInto (fun name e d e' read =>
        (EntryDraft.placesReader s.keys).whole_of_read EntryDraft.readsWhole_set
          (fun _ => id) read) read
  | _ =>
      simp only [EntryShape.read] at read
      exact (Doc.not_mismatch _ _ read).elim

end EntryShape

namespace RequestDraft

theorem readsWhole_set (r : RequestDraft) (s : Section) : ReadsWhole (r.set s) := by
  cases s with
  | select => exact (((EntryShape.readsWhole_read _).bind _).asList).bind _
  | aggregate => exact (((EntryShape.readsWhole_read _).bind _).asList).bind _
  | filter => exact (((EntryShape.readsWhole_read _).bind _).asList).bind _

theorem whole_of_readSections {sections : List Section} {items : Items} {r r' : RequestDraft}
    (read : readSections sections items r = .ok r') : items.Whole := by
  induction sections generalizing items r with
  | nil =>
      obtain ⟨_, done, -⟩ := bind_eq_ok_iff.1 read
      exact Items.whole_of_finish done
  | cons s sections ih =>
      obtain ⟨next, found, read⟩ := bind_eq_ok_iff.1 read
      obtain _ | ⟨d, rest⟩ := next
      · exact Items.next?_eq_none found
      · obtain ⟨r₁, first, later⟩ := bind_eq_ok_iff.1 read
        rw [Items.next?_eq_some found]
        exact ⟨r.readsWhole_set s d r₁ first, ih later⟩

end RequestDraft

namespace Request

/-- The ways to write a request anew: its members, or an entry of one of its sections. -/
inductive DocRewrite : Doc → Doc → Prop
  | members {ms ms' : List (RawText × Doc)}
    (rewrite : MembersRewrite Section.all Section.spellings (fun _ => False) ms ms') :
    DocRewrite (.object (.ofList ms)) (.object (.ofList ms'))
  /-- An entry of a section that stands under its name. -/
  | entryOfMember {front back : List (RawText × Doc)} {key : RawText} {name : String}
    {s : Section} {ahead behind : List Doc} {entry entry' : Doc} (read : key.read = .ok name)
    (spelled : name ∈ s.spellings) (rewrite : s.shape.Rewrite entry entry') :
    DocRewrite
      (.object (.ofList (front ++ (key, .array (.ofList (ahead ++ entry :: behind))) :: back)))
      (.object (.ofList (front ++ (key, .array (.ofList (ahead ++ entry' :: behind))) :: back)))
  /-- An entry of a section that stands at its place in an array. -/
  | entryOfItem {front back : List Doc} {s : Section} {ahead behind : List Doc}
    {entry entry' : Doc} (there : Section.all[front.length]? = some s)
    (rewrite : s.shape.Rewrite entry entry') :
    DocRewrite (.array (.ofList (front ++ .array (.ofList (ahead ++ entry :: behind)) :: back)))
      (.array (.ofList (front ++ .array (.ofList (ahead ++ entry' :: behind)) :: back)))

/-- One text writes the request of another anew: it is another text of the same document, or a
text of a document that is written anew. -/
def Rewrites (text text' : String) : Prop :=
  ∃ d d' : Doc, d.Writes text ∧ d'.Writes text' ∧ (d' = d ∨ DocRewrite d d')

theorem ofDoc_rewrite {d d' : Doc} (rewrite : DocRewrite d d') : ReadsAs ofDoc d d' := by
  intro r result
  obtain ⟨draft, read, rfl⟩ := map_eq_ok_iff.1 result
  refine map_eq_ok_iff.2 ⟨draft, ?_, rfl⟩
  have apart : ∀ s ∈ Section.all, ∀ other ∈ Section.all, ∀ name ∈ s.spellings,
      name ∈ other.spellings → s = other := fun s _ other _ => s.spellings_apart other
  cases rewrite with
  | members rewrite => exact RequestDraft.placesReader.readInto_rewrite apart rewrite read
  | @entryOfMember _ _ _ _ s ahead behind _ _ named spelled rewrite =>
      have listed : s ∈ Section.all := by cases s <;> decide
      exact RequestDraft.placesReader.readInto_replace apart listed named spelled
        (RequestDraft.set_readsAs rewrite ahead behind) read
  | entryOfItem there rewrite =>
      exact RequestDraft.readSections_replace (RequestDraft.set_readsAs rewrite _ _) there read

theorem readsWhole_ofDoc : ReadsWhole ofDoc := by
  intro d r result
  obtain ⟨draft, read, -⟩ := map_eq_ok_iff.1 result
  cases d with
  | array items => exact RequestDraft.whole_of_readSections read
  | object members =>
      exact Members.whole_of_readInto (fun name draft d draft' read =>
        RequestDraft.placesReader.whole_of_read RequestDraft.readsWhole_set
          (fun _ => False.elim) read) read
  | _ => exact (Doc.not_mismatch _ _ read).elim

theorem ofText_eq_ok_iff {text : String} {r : Request} :
    Request.ofText text = .ok r ↔
      (∃ d, Parsed.ofText text = ⟨d, false⟩ ∧ ofDoc d = .ok r) ∧ r.validate = .ok () := by
  rw [← readText_eq_ok_iff]
  unfold Request.ofText
  cases Json.readText ofDoc text with
  | error fault => exact ⟨nofun, fun h => (nomatch h.1)⟩
  | ok r' =>
      dsimp only
      cases valid : r'.validate with
      | error fault =>
          refine ⟨nofun, fun h => ?_⟩
          rw [Except.ok.inj h.1, h.2] at valid
          cases valid
      | ok done =>
          cases done
          constructor
          · intro accepted
            obtain rfl := Except.ok.inj accepted
            exact ⟨rfl, valid⟩
          · rintro ⟨same, -⟩
            obtain rfl := Except.ok.inj same
            rfl

/-- An accepted text is a text of the grammar, and however often it is written anew, it is
accepted with the same request. -/
theorem ofText_rewritten {text : String} {r : Request} (accepted : Request.ofText text = .ok r) :
    (∃ d : Doc, d.Writes text) ∧
      ∀ text', Relation.ReflTransGen Rewrites text text' → Request.ofText text' = .ok r := by
  constructor
  · obtain ⟨⟨d, parsed, read⟩, -⟩ := ofText_eq_ok_iff.1 accepted
    exact ⟨d, writes_of_ofText parsed (readsWhole_ofDoc d r read)⟩
  · intro text' rewritten
    induction rewritten with
    | refl => exact accepted
    | tail _ rewrites ih =>
        obtain ⟨d, d', writes, writes', same⟩ := rewrites
        obtain ⟨⟨d₁, parsed, read⟩, valid⟩ := ofText_eq_ok_iff.1 ih
        obtain ⟨rfl, -⟩ := Parsed.mk.inj (parsed.symm.trans writes.ofText)
        refine ofText_eq_ok_iff.2 ⟨⟨d', writes'.ofText, ?_⟩, valid⟩
        rcases same with rfl | rewrite
        · exact read
        · exact ofDoc_rewrite rewrite r read

/-! A filter by year, then with its members in another order, then with a note that is out of
range. -/

/-- A member whose key is written without escapes. -/
def plainMember (name : String) (d : Doc) : RawText × Doc := (.written name, d)

def fieldMember : RawText × Doc := plainMember "field_name" (.text (.written "year"))

def opMember : RawText × Doc := plainMember "where" (.text (.written "="))

def conditionMember : RawText × Doc :=
  plainMember "condition" (.number ⟨false, "2024".toList, none, none⟩)

def noteMember : RawText × Doc :=
  plainMember "note" (.number ⟨false, ['1'], none, some (false, "999".toList)⟩)

/-- A request with one filter. -/
def filterDoc (ms : List (RawText × Doc)) : Doc :=
  .object (.ofList [plainMember "WHERE" (.array (.ofList [.object (.ofList ms)]))])

def yearText : String :=
  "\x7b\"WHERE\":[\x7b\"field_name\":\"year\",\"where\":\"=\",\"condition\":2024\x7d]\x7d"

def reorderedText : String :=
  "\x7b\"WHERE\":[\x7b\"where\":\"=\",\"field_name\":\"year\",\"condition\":2024\x7d]\x7d"

def notedText : String :=
  "\x7b \"WHERE\": [\x7b\"note\":1e999, \"where\": \"=\",\n\"field_name\":\"year\"," ++
    " \"condition\":2024\x7d] \x7d"

theorem rewrites_filter {ms ms' : List (RawText × Doc)} {text text' : String}
    (writes : (filterDoc ms).Writes text) (writes' : (filterDoc ms').Writes text')
    (rewrite : MembersRewrite EntryShape.filter.keys EntryKey.spellings Doc.Whole ms ms') :
    Rewrites text text' := by
  have entry : DocRewrite (filterDoc ms) (filterDoc ms') :=
    @DocRewrite.entryOfMember [] [] (.written "WHERE") "WHERE" .filter [] [] _ _
      (RawText.read_written _) (by decide) (.members rewrite)
  exact ⟨_, _, writes, writes', .inr entry⟩

theorem filterDoc_writes {ms : List (RawText × Doc)} (whole : (Members.ofList ms).Whole)
    {text : String} (read : Token.ofText text = (filterDoc ms).tokens) :
    (filterDoc ms).Writes text := by
  have all : (filterDoc ms).Whole := ⟨rfl, ⟨whole, rfl⟩, rfl⟩
  exact all.writes read

theorem rewrites_year : Relation.ReflTransGen Rewrites yearText notedText := by
  have year : (filterDoc [fieldMember, opMember, conditionMember]).Writes yearText :=
    filterDoc_writes (by exact ⟨rfl, rfl, rfl, rfl, rfl, trivial, rfl⟩) (by decide +kernel)
  have reordered : (filterDoc [opMember, fieldMember, conditionMember]).Writes reorderedText :=
    filterDoc_writes (by exact ⟨rfl, rfl, rfl, rfl, rfl, trivial, rfl⟩) (by decide +kernel)
  have noted : (filterDoc [noteMember, opMember, fieldMember, conditionMember]).Writes notedText :=
    filterDoc_writes (by exact ⟨rfl, trivial, rfl, rfl, rfl, rfl, rfl, trivial, rfl⟩)
      (by decide +kernel)
  have swap := rewrites_filter year reordered (.reorder (.swap ..))
  have add := rewrites_filter reordered noted
    (@MembersRewrite.add _ _ _ _ [] _ _ _ "note" (RawText.read_written _) (by decide) trivial)
  exact .tail (.single swap) add

theorem ofText_rewritten_year :
    Request.ofText yearText = .ok ⟨[], [], [⟨"year", .eq, "2024"⟩]⟩ ∧
      Relation.ReflTransGen Rewrites yearText notedText ∧
      Request.ofText notedText = .ok ⟨[], [], [⟨"year", .eq, "2024"⟩]⟩ := by
  have accepted : Request.ofText yearText = .ok ⟨[], [], [⟨"year", .eq, "2024"⟩]⟩ := by
    decide +kernel
  exact ⟨accepted, rewrites_year, (ofText_rewritten accepted).2 _ rewrites_year⟩

end Request

end StarPlan
