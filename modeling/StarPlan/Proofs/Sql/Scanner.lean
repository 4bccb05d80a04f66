import Mathlib.Data.List.Infix
import StarPlan.Sql.Dialect

/-!
# Scanners

A scanner takes a value off the front of a text. What follows in the text decides whether it
takes exactly what was written for the value: a word ends where a character stands that no word
contains, a quoted name ends at a quote that is not doubled, literal text ends at the next line
or at the next condition, and a list ends where its separator does not follow.

Each scanner comes with the lemma that it takes off what was written, before every rest that may
follow.
-/

namespace StarPlan.Sql

/-- A joined text is its first part and the others, each behind the separator. -/
theorem intercalate_cons (lead first : String) (items : List String) :
    lead.intercalate (first :: items) = first ++ String.join (items.map (lead ++ ·)) := by
  induction items generalizing first with
  | nil => simp
  | cons item items ih =>
      rw [String.intercalate_cons_cons, ih, List.map_cons, String.join_cons, String.append_assoc,
        String.append_assoc]

/-- Takes a value off the front of a text. -/
abbrev Scan (α : Type) := StateT (List Char) Option α

namespace Scan

variable {α β : Type} {cs rest : List Char}

theorem bind_eq {scan : Scan α} {next : α → Scan β} {a : α} (first : scan cs = some (a, rest)) :
    (scan >>= next) cs = next a rest := by
  show (scan cs).bind _ = _
  rw [first]
  rfl

theorem bind_eq_none {scan : Scan α} {next : α → Scan β} (failed : scan cs = none) :
    (scan >>= next) cs = none := by
  show (scan cs).bind _ = _
  rw [failed]
  rfl

theorem orElse_eq {scan other : Scan α} {a : α} (first : scan cs = some (a, rest)) :
    (scan <|> other) cs = some (a, rest) := by
  show (scan cs).orElse _ = _
  rw [first]
  rfl

theorem orElse_of_none {scan other : Scan α} (failed : scan cs = none) :
    (scan <|> other) cs = other cs := by
  show (scan cs).orElse _ = _
  rw [failed]
  rfl

/-! Fixed texts. -/

/-- Takes off a text. -/
def literal (text : String) : Scan Unit := fun cs =>
  (cs.dropPrefix? text.toList).map ((), ·)

theorem dropPrefix?_append (lead rest : List Char) :
    (lead ++ rest).dropPrefix? lead = some rest :=
  List.dropPrefix?_eq_some_iff.2 ⟨lead, rfl, beq_self_eq_true lead⟩

theorem dropPrefix?_of_other {lead : List Char} (other : ¬ lead <+: cs) :
    cs.dropPrefix? lead = none := by
  cases found : cs.dropPrefix? lead with
  | none => rfl
  | some rest =>
      obtain ⟨front, rfl, same⟩ := List.dropPrefix?_eq_some_iff.1 found
      exact absurd (beq_iff_eq.1 same ▸ List.prefix_append ..) other

theorem literal_append (text : String) (rest : List Char) :
    literal text (text.toList ++ rest) = some ((), rest) := by
  rw [literal, dropPrefix?_append]
  rfl

theorem literal_of_other {text : String} (other : ¬ text.toList <+: cs) :
    literal text cs = none := by
  rw [literal, dropPrefix?_of_other other]
  rfl

/-- Takes off the first of some texts that stands in front, and says what it stands for. -/
def oneOf (text : α → String) : List α → Scan α
  | [] => failure
  | a :: order => (do literal (text a); return a) <|> oneOf text order

theorem oneOf_eq_none {text : α → String} {order : List α}
    (others : ∀ b ∈ order, ¬ (text b).toList <+: cs) : oneOf text order cs = none := by
  induction order with
  | nil => rfl
  | cons b order ih =>
      obtain ⟨other, others⟩ := List.forall_mem_cons.1 others
      rw [oneOf, orElse_of_none (bind_eq_none (literal_of_other other))]
      exact ih others

/-- A text is taken off unless one that is tried earlier stands there too. -/
theorem oneOf_append {text : α → String} {a : α} {earlier later : List α}
    (others : ∀ b ∈ earlier, ¬ (text b).toList <+: (text a).toList ++ rest) :
    oneOf text (earlier ++ a :: later) ((text a).toList ++ rest) = some (a, rest) := by
  induction earlier with
  | nil => exact orElse_eq (bind_eq (literal_append (text a) rest))
  | cons b earlier ih =>
      obtain ⟨other, others⟩ := List.forall_mem_cons.1 others
      rw [List.cons_append, oneOf, orElse_of_none (bind_eq_none (literal_of_other other))]
      exact ih others

end Scan

/-- Of two texts neither of which begins with the other, one never stands in front of what goes on
after the other. -/
theorem not_front_append {front text rest : List Char} (h : ¬ front <+: text)
    (h' : ¬ text <+: front) : ¬ front <+: text ++ rest := fun both =>
  (List.prefix_or_prefix_of_prefix both (List.prefix_append text rest)).elim h h'

/-! Words. -/

/-- A character that does not end a word. -/
def isWordChar (c : Char) : Bool :=
  !(Text.isBlank c || c == '(' || c == ')')

/-- No word goes on at the front of a text. -/
def EndsWord (rest : List Char) : Prop :=
  ∀ c ∈ rest.head?, isWordChar c = false

/-- A text that is one word, or empty. -/
def IsWord (text : String) : Prop :=
  ∀ c ∈ text.toList, isWordChar c = true

instance (text : String) : Decidable (IsWord text) :=
  decidable_of_iff (text.toList.all isWordChar = true) List.all_eq_true

section

variable {w rest more : List Char} {d : Char}

theorem takeWhile_word (word : ∀ c ∈ w, isWordChar c = true) (ends : EndsWord rest) :
    (w ++ rest).takeWhile isWordChar = w := by
  rw [List.takeWhile_append_of_pos word]
  cases rest with
  | nil => exact List.append_nil w
  | cons d rest => rw [List.takeWhile_cons_of_neg (by simp [ends d rfl]), List.append_nil]

theorem dropWhile_word (word : ∀ c ∈ w, isWordChar c = true) (ends : EndsWord rest) :
    (w ++ rest).dropWhile isWordChar = rest := by
  rw [List.dropWhile_append_of_pos word]
  cases rest with
  | nil => rfl
  | cons d rest => rw [List.dropWhile_cons_of_neg (by simp [ends d rfl])]

/-- A text in front that goes on after its first word goes on as the whole text does. -/
theorem head?_of_front {v : List Char} (front : ∀ c ∈ v, isWordChar c = true)
    (stop : isWordChar d = false) (word : ∀ c ∈ w, isWordChar c = true) (ends : EndsWord rest)
    (h : v ++ d :: more <+: w ++ rest) : rest.head? = some d := by
  obtain ⟨tail, eq⟩ := h
  have ends' : EndsWord (d :: more ++ tail) := by
    rintro c ⟨⟩
    exact stop
  have cut := dropWhile_word front ends'
  rw [← List.append_assoc, eq, dropWhile_word word ends] at cut
  rw [cut]
  rfl

end

namespace Scan

/-- Takes off a word. -/
def word : Scan String := fun cs =>
  some (String.ofList (cs.takeWhile isWordChar), cs.dropWhile isWordChar)

theorem word_append {text : String} {rest : List Char} (isWord : IsWord text)
    (ends : EndsWord rest) : word (text.toList ++ rest) = some (text, rest) := by
  rw [word, takeWhile_word isWord ends, dropWhile_word isWord ends, String.ofList_toList]

/-! Quoted names. -/

/-- Reads on inside a quoted name: two quotes stand for one, and a single one ends the name. -/
def untilQuote : List Char → Option (List Char × List Char)
  | [] => none
  | '"' :: '"' :: rest => (untilQuote rest).map fun found => ('"' :: found.1, found.2)
  | '"' :: rest => some ([], rest)
  | c :: rest => (untilQuote rest).map fun found => (c :: found.1, found.2)

/-- Takes off a quoted name. -/
def quoted : Scan String
  | '"' :: cs => (untilQuote cs).map fun found => (String.ofList found.1, found.2)
  | _ => none

theorem untilQuote_doubleQuotes (name : List Char) {rest : List Char}
    (ends : rest.head? ≠ some '"') :
    untilQuote (doubleQuotes name ++ '"' :: rest) = some (name, rest) := by
  induction name with
  | nil =>
      rw [doubleQuotes_nil, List.nil_append, untilQuote]
      rintro more rfl
      exact ends rfl
  | cons c name ih =>
      by_cases quote : c = '"'
      · rw [quote, doubleQuotes, if_pos rfl]
        simp only [List.cons_append, untilQuote, ih, Option.map_some]
      · rw [doubleQuotes, if_neg quote, List.cons_append, untilQuote, ih]
        · rfl
        · rintro more rfl
          exact absurd rfl quote
        · exact quote

/-- What is between the quotes is read back, whatever it is, unless another quote follows. -/
theorem quoted_quoteIdent (name : String) {rest : List Char} (ends : rest.head? ≠ some '"') :
    quoted ((quoteIdent name).toList ++ rest) = some (name, rest) := by
  have text : (quoteIdent name).toList ++ rest =
      '"' :: (doubleQuotes name.toList ++ '"' :: rest) := by
    rw [quoteIdent, String.toList_ofList, List.cons_append, List.append_assoc]
    rfl
  rw [text, quoted, untilQuote_doubleQuotes _ ends]
  simp

/-! Lists. -/

/-- Takes off a list that has a text of its own in front, if this text is there. -/
def optionally (lead : String) (scan : Scan (List α)) : Scan (List α) := fun cs =>
  match cs.dropPrefix? lead.toList with
  | none => some ([], cs)
  | some cs => scan cs

/-- Takes off values for as long as a separator stands in front of each, up to a number of
values. -/
def chain (lead : String) (scan : Scan α) : Nat → Scan (List α)
  | 0 => pure []
  | n + 1 => optionally lead do return (← scan) :: (← chain lead scan n)

/-- Takes off all values with a separator in front. -/
def many (lead : String) (scan : Scan α) : Scan (List α) := fun cs =>
  chain lead scan cs.length cs

/-- Takes off one value and all that follow it after a separator. -/
def series (lead : String) (scan : Scan α) : Scan (List α) := do
  return (← scan) :: (← many lead scan)

variable {α : Type} {lead : String} {scan : Scan α} {write : α → String}
variable {follows : List Char → Prop} {items : List α} {rest : List Char}

/-- A scanner takes off what is written for each value of a list. -/
def Undoes (scan : Scan α) (write : α → String) (follows : List Char → Prop)
    (items : List α) : Prop :=
  ∀ a ∈ items, ∀ rest, follows rest → scan ((write a).toList ++ rest) = some (a, rest)

theorem optionally_append {scan : Scan (List α)} (cs : List Char) :
    optionally lead scan (lead.toList ++ cs) = scan cs := by
  rw [optionally, dropPrefix?_append]

theorem optionally_of_other {scan : Scan (List α)} (absent : ¬ lead.toList <+: rest) :
    optionally lead scan rest = some ([], rest) := by
  rw [optionally, dropPrefix?_of_other absent]

/-- What follows an item of a list: the next item with its separator, or what follows the list. -/
theorem follows_flatMap (write : α → String) (goesOn : ∀ rest, follows (lead.toList ++ rest))
    (ends : follows rest) (items : List α) :
    follows ((items.flatMap fun a => lead.toList ++ (write a).toList) ++ rest) := by
  cases items with
  | nil => exact ends
  | cons a items =>
      rw [List.flatMap_cons, List.append_assoc, List.append_assoc]
      exact goesOn _

theorem chain_flatMap (undoes : Undoes scan write follows items)
    (goesOn : ∀ rest, follows (lead.toList ++ rest)) (ends : follows rest)
    (finished : ¬ lead.toList <+: rest) {n : Nat} (enough : items.length ≤ n) :
    chain lead scan n ((items.flatMap fun a => lead.toList ++ (write a).toList) ++ rest) =
      some (items, rest) := by
  induction items generalizing n with
  | nil =>
      cases n with
      | zero => rfl
      | succ n => exact optionally_of_other finished
  | cons a items ih =>
      obtain _ | n := n
      · exact absurd enough (Nat.not_succ_le_zero _)
      obtain ⟨first, later⟩ := List.forall_mem_cons.1 undoes
      have next := follows_flatMap write goesOn ends items
      rw [List.flatMap_cons, List.append_assoc, List.append_assoc, chain, optionally_append,
        bind_eq (first _ next), bind_eq (ih later (Nat.le_of_succ_le_succ enough))]
      rfl

theorem many_flatMap (undoes : Undoes scan write follows items)
    (goesOn : ∀ rest, follows (lead.toList ++ rest)) (ends : follows rest)
    (finished : ¬ lead.toList <+: rest) (visible : lead ≠ "") :
    many lead scan ((items.flatMap fun a => lead.toList ++ (write a).toList) ++ rest) =
      some (items, rest) := by
  refine chain_flatMap undoes goesOn ends finished ?_
  have one : 1 ≤ lead.toList.length := List.length_pos_iff.2 (by simpa using visible)
  have all : items.length ≤
      (items.flatMap fun a => lead.toList ++ (write a).toList).length := by
    clear undoes
    induction items with
    | nil => exact Nat.zero_le _
    | cons a items ih =>
        rw [List.flatMap_cons, List.length_append, List.length_append, List.length_cons]
        omega
  rw [List.length_append]
  omega

theorem toList_intercalate_cons (lead : String) (write : α → String) (a : α) (items : List α) :
    (lead.intercalate ((a :: items).map write)).toList =
      (write a).toList ++ items.flatMap fun b => lead.toList ++ (write b).toList := by
  rw [List.map_cons, intercalate_cons, String.toList_append, String.toList_join, List.map_map,
    List.flatMap_map]
  simp only [Function.comp_apply, String.toList_append]

theorem series_intercalate (undoes : Undoes scan write follows items)
    (goesOn : ∀ rest, follows (lead.toList ++ rest)) (ends : follows rest)
    (finished : ¬ lead.toList <+: rest) (visible : lead ≠ "") (nonempty : items ≠ []) :
    series lead scan ((lead.intercalate (items.map write)).toList ++ rest) =
      some (items, rest) := by
  obtain ⟨a, items, rfl⟩ := List.exists_cons_of_ne_nil nonempty
  obtain ⟨first, later⟩ := List.forall_mem_cons.1 undoes
  have next := follows_flatMap write goesOn ends items
  rw [toList_intercalate_cons, List.append_assoc, series, bind_eq (first _ next),
    bind_eq (many_flatMap later goesOn ends finished visible)]
  rfl

end Scan

end StarPlan.Sql
