import StarPlan.Toml.Statement

/-!
# TOML documents

How statements build up a document. A header opens a table that was not defined before; tables
on the way to it come into being implicitly and may still get a header of their own, which
moves them to the end of their parent. A dotted key reaches only tables that dotted keys or
headers of inner tables brought into being, and assigns only in one that a dotted key did.

An array of tables is open at its last table.
-/

namespace StarPlan.Toml

/-- How a table came into being. -/
inductive Origin where
  | header
  | onTheWay
  | dottedKey
deriving DecidableEq, Repr

/-- A part of a document under construction: a finished value, a table, or the tables of an
array in reverse order. -/
inductive Node where
  | value (value : Value)
  | table (origin : Origin) (members : List (String × Node))
  | tables (reversed : List (Origin × List (String × Node)))

/-- A table under construction. -/
abbrev Table := Origin × List (String × Node)

mutual

/-- A finished part of a document. -/
def Node.finish : Node → Value
  | .value v => v
  | .table _ members => .table (finishNodes members)
  | .tables reversed => .array (finishTables reversed).reverse

/-- The finished members of a table. -/
def finishNodes : List (String × Node) → List (String × Value)
  | [] => []
  | (key, n) :: rest => (key, n.finish) :: finishNodes rest

/-- The finished tables of an array, in the order given. -/
def finishTables : List (Origin × List (String × Node)) → List Value
  | [] => []
  | (_, members) :: rest => .table (finishNodes members) :: finishTables rest

end

/-- Rewrites the table that a path leads to. Tables that are missing on the way come into being,
with the origin `fresh`; a dotted key does not pass through a table with a header. -/
def reach (fresh : Origin) (path : List String) (f : Table → Option Table) (t : Table) :
    Option Table :=
  match path with
  | [] => f t
  | k :: path =>
    match t.2.lookup k with
    | none =>
      (reach fresh path f (fresh, [])).map fun inner =>
        (t.1, t.2 ++ [(k, .table inner.1 inner.2)])
    | some (.value _) => none
    | some (.table origin members) =>
      if fresh = .dottedKey ∧ origin = .header then none
      else
        (reach fresh path f (origin, members)).map fun inner =>
          (t.1, replaceMember k (.table inner.1 inner.2) t.2)
    | some (.tables []) => none
    | some (.tables (last :: before)) =>
      (reach fresh path f last).map fun inner =>
        (t.1, replaceMember k (.tables (inner :: before)) t.2)

/-- Assigns a value to a dotted key of a table. -/
def assign (path : List String) (key : String) (value : Value) (t : Table) : Option Table :=
  reach .dottedKey path (fun inner => do
    guard (path.isEmpty || inner.1 = .dottedKey)
    guard (inner.2.lookup key).isNone
    return (inner.1, inner.2 ++ [(key, .value value)])) t

/-- Appends a table with a header to its parent. A table that was only on the way to others may
get its header now; it keeps what it holds. -/
def openTable (key : String) (fill : Table → Option Table) (parent : Table) : Option Table := do
  let before ← match parent.2.lookup key with
    | none => some []
    | some (.table .onTheWay members) => some members
    | some _ => none
  let inner ← fill (.header, before)
  return (parent.1, parent.2.filter (·.1 != key) ++ [(key, .table inner.1 inner.2)])

/-- Appends a table to an array of tables of its parent. -/
def addTable (key : String) (fill : Table → Option Table) (parent : Table) : Option Table := do
  let inner ← fill (.header, [])
  match parent.2.lookup key with
  | none => return (parent.1, parent.2 ++ [(key, .tables [inner])])
  | some (.tables ts) => return (parent.1, replaceMember key (.tables (inner :: ts)) parent.2)
  | some _ => none

/-- The assignments before the next header, made in a table. -/
def fillTable : List Statement → Table → Option Table
  | .assign path key value :: rest, t => (assign path key value t).bind (fillTable rest)
  | _, t => some t

/-- What a header with the statements after it does to a document. -/
def runHeader (document : Table) (rest : List Statement) : Statement → Option Table
  | .openTable path key => reach .onTheWay path (openTable key (fillTable rest)) document
  | .addTable path key => reach .onTheWay path (addTable key (fillTable rest)) document
  | .assign .. => some document

/-- What all headers do to a document, in order. -/
def runHeaders : List Statement → Table → Option Table
  | [], document => some document
  | s :: rest, document => (runHeader document rest s).bind (runHeaders rest)

/-- The members of the document that a text describes. -/
def ofText? (text : String) : Option (List (String × Value)) := do
  let statements ← Statement.ofText? text
  let root ← fillTable statements (.header, [])
  let document ← runHeaders statements root
  return finishNodes document.2

end StarPlan.Toml
