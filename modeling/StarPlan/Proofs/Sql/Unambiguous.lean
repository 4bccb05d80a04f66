import StarPlan.Proofs.Sql.Scanner
import StarPlan.Sql.Render

/-!
# The text of a query determines the query

Operands are never put in brackets and lists are joined by their separators, so a text says
which query it is of only if names and literals stay clear of the separators. For queries of
the shape that plans have (`Query.Regular`) they need not stay clear of much: the names of tables
and columns are words, qualifiers have no dot, and literals have neither a new line nor a space
that `AND` follows. Aliases stand between quotes and may be anything.

`Query.ofText?` reads a text from front to back, one scanner for each part of a query, and gives
back every regular query from its text.
-/

namespace StarPlan

/-- Every comparison. -/
def Comparison.all : List Comparison := [eq, ne, gt, ge, lt, le, like, ilike, isIn, notIn]

theorem Comparison.mem_all (op : Comparison) : op ∈ all := by
  cases op <;> decide

namespace Sql

/-! Regular queries. -/

/-- Literal text that shows where it ends. -/
def IsLiteral (text : String) : Prop :=
  '\n' ∉ text.toList ∧ ¬ " AND".toList <:+: text.toList

namespace Expr

/-- A column of a table, both named by words. -/
inductive IsColumn : Expr → Prop
  | ofTable {table name : String} (qualifier : IsWord table) (plain : '.' ∉ table.toList)
    (word : IsWord name) : IsColumn (ofTable table name)

/-- A column or an aggregate of one. -/
inductive IsSelectable : Expr → Prop
  | column {e : Expr} (column : e.IsColumn) : IsSelectable e
  | aggregate {e : Expr} (calculation : Calculation) (column : e.IsColumn) :
    IsSelectable (aggregate calculation e)

/-- Two columns are equal. -/
inductive IsMatch : Expr → Prop
  | eq {left right : Expr} (leftColumn : left.IsColumn) (rightColumn : right.IsColumn) :
    IsMatch (binary .eq left right)

/-- A column is compared with a literal. -/
inductive IsFilter : Expr → Prop
  | compare {column : Expr} {text : String} (op : Comparison) (isColumn : column.IsColumn)
    (literal : IsLiteral text) : IsFilter (binary op column (raw text))

end Expr

/-- A query of the shape that plans have, whose names are words and whose literals show where
they end. -/
structure Query.Regular (q : Query) : Prop where
  select : ∀ item ∈ q.select, item.expr.IsSelectable
  source : IsWord q.source
  joins : ∀ join ∈ q.joins, IsWord join.table ∧ join.on ≠ [] ∧ ∀ e ∈ join.on, e.IsMatch
  filters : ∀ e ∈ q.filters, e.IsFilter
  groupBy : ∀ e ∈ q.groupBy, e.IsColumn

/-! Readers for the parts of a query. -/

namespace Scan

/-- Reads a column up to the end of the word. -/
def column : Scan Expr := fun cs =>
  match (cs.takeWhile isWordChar).dropWhile (· ≠ '.') with
  | [] => none
  | _ :: name =>
    some (.ofTable (String.ofList ((cs.takeWhile isWordChar).takeWhile (· ≠ '.')))
      (String.ofList name), cs.dropWhile isWordChar)

/-- How an aggregate begins. -/
def opening : Calculation → String
  | .sum => "SUM("
  | .count => "COUNT("
  | .countDistinct => "COUNT(DISTINCT "
  | .min => "MIN("
  | .max => "MAX("
  | .avg => "AVG("

/-- Reads a column or an aggregate of one. -/
def selectable : Scan Expr :=
  (do
    let calculation ← oneOf opening (.countDistinct :: Calculation.all)
    let operand ← column
    literal ")"
    return .aggregate calculation operand) <|> column

/-- Reads an alias, if there is one. -/
def alias? : Scan (Option String) :=
  (do literal " AS "; return some (← quoted)) <|> pure none

/-- Reads an output column. -/
def selectItem : Scan SelectItem := do
  return ⟨← selectable, ← alias?⟩

/-- Reads a comparison with the space behind it. -/
def comparison : Scan Comparison :=
  oneOf (fun op => op.sql ++ " ") Comparison.all

/-- Reads a literal up to the next line or condition. -/
def untilCondition : List Char → List Char × List Char
  | [] => ([], [])
  | c :: cs =>
    if c = '\n' ∨ " AND".toList <+: c :: cs then ([], c :: cs)
    else (c :: (untilCondition cs).1, (untilCondition cs).2)

/-- Reads a condition of a join. -/
def joinCondition : Scan Expr := do
  let left ← column
  literal " = "
  return .binary .eq left (← column)

/-- Reads a filter. -/
def filter : Scan Expr := do
  let operand ← column
  literal " "
  let op ← comparison
  let text : String ← fun cs =>
    some (String.ofList (untilCondition cs).1, (untilCondition cs).2)
  return .binary op operand (.raw text)

/-- Reads a join after its first words. -/
def join : Scan Join := do
  let table ← word
  literal "\n\tON "
  return ⟨table, ← series " AND " joinCondition⟩

/-- Reads a list with one item to a line. -/
def items {α : Type} (scan : Scan α) : Scan (List α) := do
  literal "\n\t "
  series "\n\t," scan <|> pure []

/-- Reads a query. -/
def query : Scan Query := do
  literal "SELECT"
  let select ← items selectItem
  literal "\nFROM "
  let source ← word
  let joins ← many "\nINNER JOIN " join
  let filters ← optionally "\nWHERE " (series " AND " filter)
  let groupBy ← optionally "\nGROUP BY" (items column)
  return ⟨select, source, joins, filters, groupBy⟩

end Scan

/-- Reads the text of a query. -/
def Query.ofText? (text : String) : Option Query :=
  match Scan.query text.toList with
  | some (q, []) => some q
  | _ => none

/-! What ends each part. -/

/-- A text is over, or it goes on in a new line. -/
def EndsLine (rest : List Char) : Prop :=
  ∀ c ∈ rest.head?, c = '\n'

/-- A text goes on in a new line, with another condition, or not at all. -/
def EndsCondition (rest : List Char) : Prop :=
  EndsLine rest ∨ " AND".toList <+: rest

section

variable {rest : List Char} {lead : List Char}

theorem EndsLine.append {front : List Char} (first : EndsLine front) (later : EndsLine rest) :
    EndsLine (front ++ rest) := by
  cases front with
  | nil => exact later
  | cons c front => exact first

theorem EndsLine.endsWord (ends : EndsLine rest) : EndsWord rest := by
  intro c head
  rw [ends c head]
  decide

theorem EndsLine.not_front (ends : EndsLine rest) {c : Char} (other : c ≠ '\n') :
    ¬ c :: lead <+: rest := by
  rintro ⟨tail, rfl⟩
  exact other (ends c rfl)

theorem EndsCondition.endsWord (ends : EndsCondition rest) : EndsWord rest := by
  rcases ends with line | ⟨tail, rfl⟩
  · exact line.endsWord
  · rintro c ⟨⟩
    decide

end

/-! Columns and aggregates. -/

theorem toList_render_column (table name : String) :
    ((Expr.ofTable table name).render postgres).toList =
      table.toList ++ '.' :: name.toList := by
  show (toString table ++ toString "." ++ toString name).toList = _
  rw [String.toList_append, String.toList_append, List.append_assoc]
  rfl

theorem Expr.IsColumn.isWord {e : Expr} (regular : e.IsColumn) : IsWord (e.render postgres) := by
  obtain ⟨qualifier, -, word⟩ := regular
  intro c listed
  rw [toList_render_column] at listed
  rcases List.mem_append.1 listed with front | dot | ⟨_, back⟩
  · exact qualifier c front
  · decide
  · exact word c back

namespace Scan

variable {e : Expr} {rest : List Char}

theorem column_render (regular : e.IsColumn) (ends : EndsWord rest) :
    column ((e.render postgres).toList ++ rest) = some (e, rest) := by
  have isWord := regular.isWord
  rw [column, takeWhile_word isWord ends, dropWhile_word isWord ends]
  obtain ⟨-, plain, -⟩ := regular
  have front : ∀ c ∈ _, (decide (c ≠ '.')) = true := fun c listed =>
    decide_eq_true fun dot => plain (dot ▸ listed)
  rw [toList_render_column, List.dropWhile_append_of_pos front, List.takeWhile_append_of_pos front]
  simp

theorem render_aggregate (calculation : Calculation) (operand : Expr) :
    (Expr.aggregate calculation operand).render postgres =
      opening calculation ++ operand.render postgres ++ ")" := by
  cases calculation <;> rfl

theorem opening_not_front {tried calculation : Calculation} {word more : List Char}
    (isWord : ∀ c ∈ word, isWordChar c = true) (differs : tried ≠ calculation)
    (single : calculation ≠ .countDistinct) :
    ¬ (opening tried).toList <+: (opening calculation).toList ++ (word ++ ')' :: more) := by
  by_cases distinct : tried = .countDistinct ∧ calculation = .count
  · -- `COUNT(DISTINCT ` begins as `COUNT(` does, but no column has a space.
    obtain ⟨rfl, rfl⟩ := distinct
    intro front
    have inner : "DISTINCT".toList ++ ' ' :: [] <+: word ++ ')' :: more :=
      (List.prefix_append_right_inj "COUNT(".toList).1 front
    have next := head?_of_front (List.all_eq_true.1 (by decide)) (by decide) isWord
      (by rintro c ⟨⟩; decide) inner
    cases next
  · refine not_front_append ?_ ?_ <;> revert differs single distinct <;>
      cases tried <;> cases calculation <;> decide

theorem opening_not_front_word {word rest : List Char} (isWord : ∀ c ∈ word, isWordChar c = true)
    (ends : EndsWord rest) (plain : rest.head? ≠ some '(') (tried : Calculation) :
    ¬ (opening tried).toList <+: word ++ rest := by
  obtain ⟨front, more, text, isFront⟩ : ∃ front more,
      (opening tried).toList = front ++ '(' :: more ∧ ∀ c ∈ front, isWordChar c = true := by
    cases tried with
    | countDistinct | count => exact ⟨"COUNT".toList, _, rfl, List.all_eq_true.1 (by decide)⟩
    | sum => exact ⟨"SUM".toList, _, rfl, List.all_eq_true.1 (by decide)⟩
    | min => exact ⟨"MIN".toList, _, rfl, List.all_eq_true.1 (by decide)⟩
    | max => exact ⟨"MAX".toList, _, rfl, List.all_eq_true.1 (by decide)⟩
    | avg => exact ⟨"AVG".toList, _, rfl, List.all_eq_true.1 (by decide)⟩
  rw [text]
  exact fun h => plain (head?_of_front isFront (by decide) isWord ends h)

/-- Before an aggregate is tried, `COUNT(DISTINCT ` is, and other aggregates are. -/
theorem exists_openings_eq (calculation : Calculation) :
    ∃ earlier later, .countDistinct :: Calculation.all = earlier ++ calculation :: later ∧
      ∀ tried ∈ earlier, tried ≠ calculation ∧ calculation ≠ .countDistinct := by
  by_cases distinct : calculation = .countDistinct
  · exact ⟨[], _, by rw [distinct]; rfl, nofun⟩
  · obtain ⟨earlier, later, order, fresh⟩ :=
      List.eq_append_cons_of_mem (Calculation.mem_all calculation)
    refine ⟨.countDistinct :: earlier, later, congrArg (_ :: ·) order, ?_⟩
    rintro tried listed
    refine ⟨?_, distinct⟩
    rintro rfl
    rcases List.mem_cons.1 listed with same | before
    · exact distinct same
    · exact fresh before

theorem selectable_render (regular : e.IsSelectable) (ends : EndsWord rest)
    (plain : rest.head? ≠ some '(') :
    selectable ((e.render postgres).toList ++ rest) = some (e, rest) := by
  cases regular with
  | column isColumn =>
      rw [selectable, orElse_of_none, column_render isColumn ends]
      refine bind_eq_none (oneOf_eq_none fun tried _ => ?_)
      exact opening_not_front_word isColumn.isWord ends plain tried
  | @aggregate operand calculation isColumn =>
      have closed : EndsWord (")".toList ++ rest) := by
        rintro c ⟨⟩
        decide
      obtain ⟨earlier, later, order, others⟩ := exists_openings_eq calculation
      rw [render_aggregate, String.toList_append, String.toList_append, List.append_assoc,
        List.append_assoc, selectable, order]
      refine orElse_eq ?_
      rw [bind_eq (oneOf_append fun tried listed => ?_), bind_eq (column_render isColumn closed),
        bind_eq (literal_append ..)]
      · rfl
      · obtain ⟨differs, single⟩ := others tried listed
        exact opening_not_front isColumn.isWord differs single

theorem quoted_alias {name : String} (line : EndsLine rest) :
    quoted ((postgres.quote name).toList ++ rest) = some (name, rest) := by
  refine quoted_quoteIdent name fun quote => ?_
  exact absurd (line '"' quote) (by decide)

theorem selectItem_render {item : SelectItem} (regular : item.expr.IsSelectable)
    (line : EndsLine rest) :
    selectItem ((item.render postgres).toList ++ rest) = some (item, rest) := by
  obtain ⟨e, name⟩ := item
  cases name with
  | none =>
      have bare : alias? rest = some (none, rest) := by
        refine orElse_of_none (bind_eq_none (literal_of_other ?_))
        exact line.not_front (by decide)
      have plain : rest.head? ≠ some '(' := fun paren => absurd (line '(' paren) (by decide)
      rw [selectItem, SelectItem.render, bind_eq (selectable_render regular line.endsWord plain),
        bind_eq bare]
      rfl
  | some name =>
      have named : alias? (" AS ".toList ++ ((postgres.quote name).toList ++ rest)) =
          some (some name, rest) := by
        refine orElse_eq ?_
        rw [bind_eq (literal_append ..), bind_eq (quoted_alias line)]
        rfl
      rw [selectItem, SelectItem.render, String.toList_append, String.toList_append,
        List.append_assoc, List.append_assoc,
        bind_eq (selectable_render regular (by rintro c ⟨⟩; decide) (by rintro ⟨⟩)),
        bind_eq named]
      rfl

/-! Conditions. -/

theorem comparison_sql (op : Comparison) (rest : List Char) :
    comparison ((op.sql ++ " ").toList ++ rest) = some (op, rest) := by
  obtain ⟨earlier, later, order, fresh⟩ := List.eq_append_cons_of_mem op.mem_all
  rw [comparison, order]
  refine oneOf_append fun tried listed => ?_
  have differs : tried ≠ op := fun same => fresh (same ▸ listed)
  refine not_front_append ?_ ?_ <;> revert differs <;> clear order fresh <;>
    cases tried <;> cases op <;> decide

theorem untilCondition_append {text : List Char} (line : '\n' ∉ text)
    (plain : ¬ " AND".toList <:+: text) (ends : EndsCondition rest) :
    untilCondition (text ++ rest) = (text, rest) := by
  induction text with
  | nil =>
      cases rest with
      | nil => rfl
      | cons c rest => exact if_pos (ends.imp_left fun line => line c rfl)
  | cons c text ih =>
      rw [List.mem_cons, not_or] at line
      have other : ¬ " AND".toList <+: c :: (text ++ rest) := by
        intro front
        rcases List.prefix_or_prefix_of_prefix front (List.prefix_append (c :: text) rest) with
          whole | ⟨tail, split⟩
        · exact plain whole.isInfix
        · obtain ⟨more, eq⟩ := front
          rw [← split, List.append_assoc, ← List.cons_append, List.append_cancel_left_eq] at eq
          cases tail with
          | nil => exact plain (List.append_nil (c :: text) ▸ split ▸ List.infix_rfl)
          | cons d tail =>
              -- A literal that ends within ` AND` would be followed by a letter of it.
              have letter : d ∈ "AND".toList := by
                have inner : text ++ d :: tail = "AND".toList := (List.cons.inj split).2
                rw [← inner]
                exact List.mem_append_right _ List.mem_cons_self
              rcases ends with line | ⟨after, again⟩
              · obtain rfl := line d (eq ▸ rfl)
                exact absurd letter (by decide)
              · obtain rfl := (List.cons.inj (again.trans eq.symm)).1
                exact absurd letter (by decide)
      have later := ih line.2 fun inner => plain (inner.trans (List.suffix_cons c text).isInfix)
      rw [List.cons_append, untilCondition, if_neg (not_or.2 ⟨Ne.symm line.1, other⟩), later]

theorem joinCondition_render (regular : e.IsMatch) (ends : EndsCondition rest) :
    joinCondition ((e.render postgres).toList ++ rest) = some (e, rest) := by
  obtain ⟨left, right⟩ := regular
  have text : ∀ left right : Expr, ((Expr.binary .eq left right).render postgres).toList =
      (left.render postgres).toList ++ (" = ".toList ++ (right.render postgres).toList) := by
    intro left right
    simp [Expr.render, Comparison.sql]
  rw [text, List.append_assoc, List.append_assoc, joinCondition,
    bind_eq (column_render left (by rintro c ⟨⟩; decide)), bind_eq (literal_append ..),
    bind_eq (column_render right ends.endsWord)]
  rfl

theorem filter_render (regular : e.IsFilter) (ends : EndsCondition rest) :
    filter ((e.render postgres).toList ++ rest) = some (e, rest) := by
  obtain ⟨op, isColumn, line, plain⟩ := regular
  have text : ∀ (column : Expr) (text : String),
      ((Expr.binary op column (.raw text)).render postgres).toList =
        (column.render postgres).toList ++ (" ".toList ++ ((op.sql ++ " ").toList ++
          text.toList)) := by
    intro column text
    simp [Expr.render]
  have read := untilCondition_append line plain ends
  rw [text, List.append_assoc, List.append_assoc, List.append_assoc, filter,
    bind_eq (column_render isColumn (by rintro c ⟨⟩; decide)), bind_eq (literal_append ..),
    bind_eq (comparison_sql op _)]
  refine (bind_eq (congrArg some (congrArg (Prod.map String.ofList id) read))).trans ?_
  dsimp only [Prod.map, id_eq]
  rw [String.ofList_toList]
  rfl

theorem conditions_render {scan : Scan Expr} {exprs : List Expr}
    (undoes : Undoes scan (Expr.render postgres) EndsCondition exprs) (nonempty : exprs ≠ [])
    (line : EndsLine rest) :
    series " AND " scan ((renderAll postgres exprs).toList ++ rest) = some (exprs, rest) :=
  series_intercalate undoes (fun rest => .inr ⟨' ' :: rest, rfl⟩) (.inl line)
    (line.not_front (by decide)) (by decide) nonempty

/-- A join after its first words. -/
def joinBody (joined : Join) : String :=
  joined.table ++ "\n\tON " ++ renderAll postgres joined.on

theorem join_joinBody {joined : Join} (isWord : IsWord joined.table) (nonempty : joined.on ≠ [])
    (regular : ∀ e ∈ joined.on, e.IsMatch) (line : EndsLine rest) :
    join ((joinBody joined).toList ++ rest) = some (joined, rest) := by
  have ends : EndsWord ("\n\tON ".toList ++ ((renderAll postgres joined.on).toList ++ rest)) := by
    rintro c ⟨⟩
    decide
  rw [joinBody, String.toList_append, String.toList_append, List.append_assoc, List.append_assoc,
    join, bind_eq (word_append isWord ends), bind_eq (literal_append ..),
    bind_eq (conditions_render (fun e listed _ => joinCondition_render (regular e listed))
      nonempty line)]
  rfl

theorem toList_join (joins : List Join) :
    (String.join (joins.map (Join.render postgres))).toList =
      joins.flatMap fun joined => "\nINNER JOIN ".toList ++ (joinBody joined).toList := by
  rw [String.toList_join, List.flatMap_map]
  refine List.flatMap_congr fun joined _ => ?_
  rw [Join.render, joinBody, String.append_assoc, String.append_assoc, String.toList_append,
    String.append_assoc]
  rfl

/-! Clauses. -/

theorem items_renderItems {α : Type} {scan : Scan α} {write : α → String} {list : List α}
    (undoes : Undoes scan write EndsLine list) (none : scan rest = none) (line : EndsLine rest)
    (finished : ¬ "\n\t,".toList <+: rest) :
    items scan ((renderItems (list.map write)).toList ++ rest) = some (list, rest) := by
  rw [renderItems, String.toList_append, List.append_assoc, items, bind_eq (literal_append ..)]
  cases list with
  | nil =>
      have empty : series "\n\t," scan rest = .none := bind_eq_none none
      exact orElse_of_none empty
  | cons a list =>
      refine orElse_eq
        (series_intercalate undoes ?_ line finished (by decide) (List.cons_ne_nil a list))
      rintro rest c ⟨⟩
      rfl

end Scan

open Scan

variable {q : Query}

theorem endsLine_renderFilters (exprs : List Expr) :
    EndsLine (renderFilters postgres exprs).toList := by
  cases exprs with
  | nil => exact nofun
  | cons e exprs =>
      show EndsLine ("\nWHERE " ++ renderAll postgres (e :: exprs)).toList
      rw [String.toList_append]
      rintro c ⟨⟩
      rfl

theorem endsLine_renderGroups (exprs : List Expr) :
    EndsLine (renderGroups postgres exprs).toList := by
  cases exprs with
  | nil => exact nofun
  | cons e exprs =>
      show EndsLine ("\nGROUP BY" ++ renderItems ((e :: exprs).map (Expr.render postgres))).toList
      rw [String.toList_append]
      rintro c ⟨⟩
      rfl

theorem endsLine_joins (joins : List Join) :
    EndsLine (String.join (joins.map (Join.render postgres))).toList := by
  rw [toList_join]
  cases joins with
  | nil => exact nofun
  | cons joined joins =>
      rw [List.flatMap_cons]
      rintro c ⟨⟩
      rfl

/-- The grouping clause does not begin as another one does. -/
theorem not_front_renderGroups {lead : List Char} (h : ¬ lead <+: "\nGROUP BY".toList)
    (h' : ¬ "\nGROUP BY".toList <+: lead) (nonempty : lead ≠ []) (exprs : List Expr) :
    ¬ lead <+: (renderGroups postgres exprs).toList := by
  cases exprs with
  | nil => exact fun front => nonempty (List.prefix_nil.1 front)
  | cons e exprs =>
      show ¬ lead <+: ("\nGROUP BY" ++ renderItems ((e :: exprs).map (Expr.render postgres))).toList
      rw [String.toList_append]
      exact not_front_append h h'

theorem groups_render {exprs : List Expr} (regular : ∀ e ∈ exprs, e.IsColumn) :
    optionally "\nGROUP BY" (items column) (renderGroups postgres exprs).toList =
      some (exprs, []) := by
  cases exprs with
  | nil => rfl
  | cons e exprs =>
      have undoes : Undoes column (Expr.render postgres) EndsLine (e :: exprs) :=
        fun e member _ line => column_render (regular e member) line.endsWord
      have listed := @items_renderItems [] _ _ _ _ undoes rfl nofun (by decide)
      rw [List.append_nil] at listed
      show optionally _ _
        ("\nGROUP BY" ++ renderItems ((e :: exprs).map (Expr.render postgres))).toList = _
      rw [String.toList_append, optionally_append, listed]

theorem filters_render {exprs : List Expr} {rest : List Char} (regular : ∀ e ∈ exprs, e.IsFilter)
    (line : EndsLine rest) (finished : ¬ "\nWHERE ".toList <+: rest) :
    optionally "\nWHERE " (series " AND " filter) ((renderFilters postgres exprs).toList ++ rest) =
      some (exprs, rest) := by
  cases exprs with
  | nil => exact optionally_of_other finished
  | cons e exprs =>
      show optionally _ _ (("\nWHERE " ++ renderAll postgres (e :: exprs)).toList ++ rest) = _
      rw [String.toList_append, List.append_assoc, optionally_append]
      exact conditions_render (fun e member _ => filter_render (regular e member))
        (List.cons_ne_nil e exprs) line

theorem joins_render {joins : List Join} {rest : List Char}
    (regular : ∀ joined ∈ joins, IsWord joined.table ∧ joined.on ≠ [] ∧ ∀ e ∈ joined.on, e.IsMatch)
    (line : EndsLine rest) (finished : ¬ "\nINNER JOIN ".toList <+: rest) :
    many "\nINNER JOIN " join ((String.join (joins.map (Join.render postgres))).toList ++ rest) =
      some (joins, rest) := by
  rw [toList_join]
  refine many_flatMap (fun joined member _ line => ?_) ?_ line finished (by decide)
  · obtain ⟨isWord, nonempty, on⟩ := regular joined member
    exact join_joinBody isWord nonempty on line
  · rintro rest c ⟨⟩
    rfl

theorem select_render {select : List SelectItem}
    (regular : ∀ item ∈ select, item.expr.IsSelectable) (rest : List Char) :
    items selectItem ((renderItems (select.map (SelectItem.render postgres))).toList ++
      ("\nFROM ".toList ++ rest)) = some (select, "\nFROM ".toList ++ rest) := by
  refine items_renderItems (fun item member _ line => selectItem_render (regular item member) line)
    rfl ?_ (not_front_append (by decide) (by decide))
  rintro c ⟨⟩
  rfl

theorem query_render (regular : q.Regular) :
    query (q.render postgres).toList = some (q, []) := by
  have groups := endsLine_renderGroups q.groupBy
  have filters := (endsLine_renderFilters q.filters).append groups
  have joins := (endsLine_joins q.joins).append filters
  have noFilters : ¬ "\nWHERE ".toList <+: (renderGroups postgres q.groupBy).toList :=
    not_front_renderGroups (by decide) (by decide) (by decide) _
  have noJoins : ¬ "\nINNER JOIN ".toList <+:
      (renderFilters postgres q.filters).toList ++ (renderGroups postgres q.groupBy).toList := by
    cases q.filters with
    | nil => exact not_front_renderGroups (by decide) (by decide) (by decide) _
    | cons e exprs =>
        show ¬ _ <+: ("\nWHERE " ++ renderAll postgres (e :: exprs)).toList ++ _
        rw [String.toList_append, List.append_assoc]
        exact not_front_append (by decide) (by decide)
  have text : (q.render postgres).toList = "SELECT".toList ++
      ((renderItems (q.select.map (SelectItem.render postgres))).toList ++ ("\nFROM ".toList ++
        (q.source.toList ++ ((String.join (q.joins.map (Join.render postgres))).toList ++
          ((renderFilters postgres q.filters).toList ++
            (renderGroups postgres q.groupBy).toList))))) := by
    simp only [Query.render, String.toList_append, List.append_assoc]
    rfl
  rw [text, query, bind_eq (literal_append ..), bind_eq (select_render regular.select _),
    bind_eq (literal_append ..), bind_eq (word_append regular.source joins.endsWord),
    bind_eq (joins_render regular.joins filters noJoins),
    bind_eq (filters_render regular.filters groups noFilters),
    bind_eq (groups_render regular.groupBy)]
  rfl

/-- Every regular query is read back from its text, so two of them with the same text are the
same query. -/
theorem render_determines {q : Query} (regular : q.Regular) :
    Query.ofText? (q.render postgres) = some q ∧
      ∀ q' : Query, q'.Regular → q'.render postgres = q.render postgres → q' = q := by
  have reads : ∀ q : Query, q.Regular → Query.ofText? (q.render postgres) = some q := by
    intro q regular
    rw [Query.ofText?, query_render regular]
  refine ⟨reads q regular, fun q' regular' same => ?_⟩
  have both := reads q' regular'
  rw [same, reads q regular, Option.some.injEq] at both
  exact both.symm

/-- The games and their sales, with an alias that looks like the end of a clause. -/
def gameListing : Query where
  select := [⟨.ofTable "dim_game" "title", some "title\"\nFROM \"x"⟩,
    ⟨.aggregate .countDistinct (.ofTable "sales" "buyer"), some "buyers"⟩]
  source := "shop.sales"
  joins := [⟨"shop.dim_game", [.binary .eq (.ofTable "sales" "game") (.ofTable "dim_game" "id")]⟩]
  filters := [.binary .notIn (.ofTable "sales" "year") (.raw "(1999, 2000)")]
  groupBy := [.ofTable "dim_game" "title"]

theorem gameListing_regular : gameListing.Regular where
  select := List.forall_mem_cons.2 ⟨.column (.ofTable (by decide) (by decide) (by decide)),
    List.forall_mem_singleton.2 (.aggregate _ (.ofTable (by decide) (by decide) (by decide)))⟩
  source := by decide
  joins := List.forall_mem_singleton.2 ⟨by decide, nofun, List.forall_mem_singleton.2
    (.eq (.ofTable (by decide) (by decide) (by decide))
      (.ofTable (by decide) (by decide) (by decide)))⟩
  filters := List.forall_mem_singleton.2
    (.compare _ (.ofTable (by decide) (by decide) (by decide)) ⟨by decide, by decide⟩)
  groupBy := List.forall_mem_singleton.2 (.ofTable (by decide) (by decide) (by decide))

theorem render_determines_listing :
    gameListing.Regular ∧
      Query.ofText? (gameListing.render postgres) = some gameListing ∧
      ∀ q : Query, q.Regular → q.render postgres = gameListing.render postgres →
        q = gameListing :=
  ⟨gameListing_regular, render_determines gameListing_regular⟩

end Sql

end StarPlan
