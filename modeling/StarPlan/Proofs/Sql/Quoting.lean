import StarPlan.Proofs.Sql.Scanner
import StarPlan.Sql.Render

/-!
# Aliases stay between their quotes

Aliases come from callers and may hold anything, so in the text of a query they are all that a
quote could end too early. Inside an alias a quote is written twice, and a reader of quoted names
takes two quotes for one, however many of them stand side by side: what it reads is exactly what
was quoted, if no further quote follows (`Scan.quoted_eq_some_iff`).

In a query none does. Behind a column with an alias comes the next column or the FROM clause, each
in a new line. `Query.textUpTo` and `Query.textBehind` are what surrounds the alias of a column,
whatever the alias is, and `alias_read_back` says that a reader which comes to the alias reads it
and goes on behind it.
-/

namespace StarPlan.Sql

namespace Scan

variable {cs name rest : List Char}

theorem eq_of_untilQuote (read : untilQuote cs = some (name, rest)) :
    cs = doubleQuotes name ++ '"' :: rest ∧ rest.head? ≠ some '"' := by
  induction cs using untilQuote.induct generalizing name with
  | case1 => cases read
  | case2 cs ih =>
      rw [untilQuote, Option.map_eq_some_iff] at read
      obtain ⟨⟨inner, rest⟩, found, ⟨⟩⟩ := read
      obtain ⟨rfl, ends⟩ := ih found
      exact ⟨rfl, ends⟩
  | case3 cs single =>
      rw [untilQuote] at read
      · obtain ⟨⟩ := read
        refine ⟨rfl, fun quote => ?_⟩
        obtain ⟨more, rfl⟩ := List.head?_eq_some_iff.1 quote
        exact single more rfl
      · exact single
  | case4 c cs pair quote ih =>
      rw [untilQuote, Option.map_eq_some_iff] at read
      · obtain ⟨⟨inner, rest⟩, found, ⟨⟩⟩ := read
        obtain ⟨rfl, ends⟩ := ih found
        exact ⟨by rw [doubleQuotes, if_neg quote, List.cons_append], ends⟩
      · exact pair
      · exact quote

/-- A text is read as a quoted name exactly if it begins with the name as it is quoted and no
quote follows. -/
theorem quoted_eq_some_iff {name : String} :
    quoted cs = some (name, rest) ↔
      cs = (quoteIdent name).toList ++ rest ∧ rest.head? ≠ some '"' := by
  constructor
  · intro read
    unfold quoted at read
    split at read
    · next cs =>
      obtain ⟨⟨inner, rest⟩, found, ⟨⟩⟩ := Option.map_eq_some_iff.1 read
      obtain ⟨rfl, ends⟩ := eq_of_untilQuote found
      refine ⟨?_, ends⟩
      simp [quoteIdent]
    · cases read
  · rintro ⟨rfl, ends⟩
    exact quoted_quoteIdent name ends

end Scan

/-! What surrounds an alias. -/

/-- A joined text from the place of one of its items. -/
theorem intercalate_append_cons (lead : String) (before : List String) (item : String)
    (after : List String) :
    lead.intercalate (before ++ item :: after) =
      String.join (before.map (· ++ lead)) ++ item ++ String.join (after.map (lead ++ ·)) := by
  induction before with
  | nil =>
      rw [List.nil_append, List.map_nil, String.join_nil, String.empty_append, intercalate_cons]
  | cons first before ih =>
      have more : before ++ item :: after ≠ [] := by simp
      rw [List.cons_append, String.intercalate_cons_of_ne_nil more, ih, List.map_cons,
        String.join_cons]
      simp only [String.append_assoc]

namespace Query

/-- The text of a query up to the alias of a column, given the columns before it. -/
def textUpTo (d : Dialect) (before : List SelectItem) (column : Expr) : String :=
  "SELECT\n\t " ++ String.join (before.map fun item => item.render d ++ "\n\t,") ++
    column.render d ++ " AS "

/-- The text of a query behind the alias of a column, given the columns after it. -/
def textBehind (d : Dialect) (q : Query) (after : List SelectItem) : String :=
  String.join (after.map fun item => "\n\t," ++ item.render d) ++
    ("\nFROM " ++ d.table q.source ++ String.join (q.joins.map (Join.render d)) ++
      renderFilters d q.filters ++ renderGroups d q.groupBy)

variable {d : Dialect} {q : Query} {before after : List SelectItem} {column : Expr} {name : String}

theorem render_eq_around (listed : q.select = before ++ ⟨column, some name⟩ :: after) :
    q.render d = textUpTo d before column ++ d.quote name ++ q.textBehind d after := by
  have item : (⟨column, some name⟩ : SelectItem).render d =
      column.render d ++ " AS " ++ d.quote name := rfl
  rw [render, renderItems, listed, List.map_append, List.map_cons, intercalate_append_cons,
    List.map_map, List.map_map, item, textUpTo, textBehind]
  have keyword : "SELECT\n\t " = "SELECT" ++ "\n\t " := rfl
  simp only [keyword, String.append_assoc]
  rfl

theorem head?_textBehind (d : Dialect) (q : Query) (after : List SelectItem) :
    (q.textBehind d after).toList.head? = some '\n' := by
  cases after with
  | nil => simp [textBehind]
  | cons item after => simp [textBehind]

end Query

/-- A reader of quoted names reads back every name that was quoted, and nothing else, before every
rest that does not go on with a quote. Behind an alias in a query the text goes on with a new line,
so the reader takes off the alias and leaves what stands behind it. -/
theorem alias_read_back :
    (∀ (cs : List Char) (name : String) (rest : List Char),
      Scan.quoted cs = some (name, rest) ↔
        cs = (postgres.quote name).toList ++ rest ∧ rest.head? ≠ some '"') ∧
    ∀ (q : Query) (before after : List SelectItem) (column : Expr) (name : String),
      q.select = before ++ ⟨column, some name⟩ :: after →
        let behind := q.textBehind postgres after
        q.render postgres = Query.textUpTo postgres before column ++ postgres.quote name ++ behind ∧
          behind.toList.head? = some '\n' ∧
          Scan.quoted (postgres.quote name ++ behind).toList = some (name, behind.toList) := by
  refine ⟨fun cs name rest => Scan.quoted_eq_some_iff, ?_⟩
  intro q before after column name listed behind
  have line : behind.toList.head? = some '\n' := Query.head?_textBehind postgres q after
  refine ⟨Query.render_eq_around listed, line, ?_⟩
  rw [String.toList_append]
  refine Scan.quoted_eq_some_iff.2 ⟨rfl, fun quote => ?_⟩
  rw [line] at quote
  cases quote

/-- An alias made of quotes alone. -/
example : Scan.quoted "\"\"\"\"\"\"\nFROM".toList = some ("\"\"", "\nFROM".toList) := by
  decide

end StarPlan.Sql
