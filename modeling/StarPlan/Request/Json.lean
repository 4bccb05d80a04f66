import StarPlan.Json.Reading

/-!
# Requests as JSON

A request is an object with up to three sections, or an array of the sections in order. An
entry of a section is an object with fixed members, or an array of their values in order. Each
section and member has one name under which it is written and others under which it is read as
well. An unknown section is refused; an unknown member of an entry is passed over.

The condition of a filter may be a string, a number or a boolean, and is kept as text.
-/

namespace StarPlan

open Json

/-- Reads a calculation from its name. -/
def Calculation.ofDoc (d : Doc) : Reading Calculation := do
  match Calculation.ofText (← d.asText) with
  | .ok c => return c
  | .error fault => refuse (.schema fault)

/-- Reads a comparison from one of its spellings. -/
def Comparison.ofDoc (d : Doc) : Reading Comparison := do
  match Comparison.ofText (← d.asText) with
  | .ok op => return op
  | .error fault => refuse (.request fault)

/-- Reads a field kind from its exact name. -/
def FieldKind.ofExactName (name : String) : Reading FieldKind :=
  match FieldKind.all.find? fun k => k.name == name with
  | some k => .ok k
  | none => refuse (.unknownVariant name (FieldKind.all.map FieldKind.name))

/-- Reads a field kind from its exact name, or from an object whose one member has that name
and holds null. -/
def FieldKind.ofDoc : Doc → Reading FieldKind
  | .missing => stop .truncated
  | .text raw => do FieldKind.ofExactName (← raw.read)
  | .object (.done .closed) => stop .malformed
  | .object (.done (.cut _ how)) => stop how
  | .object (.noKey _ key) => key.mismatch "variant identifier"
  | .object (.member key content tail) => do
    let kind ← FieldKind.ofExactName (← key.read)
    match content with
    | .null => pure ()
    | other => other.mismatch "unit"
    match tail with
    | .done .closed => return kind
    | .done (.cut false how) => stop how
    | _ => stop .malformed
  | _ => stop .malformed

/-- The sections of a request, in order. -/
inductive Section where
  | select
  | aggregate
  | filter
deriving DecidableEq, Repr

namespace Section

/-- Every section, in order. -/
def all : List Section := [select, aggregate, filter]

/-- The names under which a section is read; under the first it is written. -/
def spellings : Section → List String
  | select => ["SELECT", "select"]
  | aggregate => ["CALCULATION", "aggregate", "calculation"]
  | filter => ["WHERE", "filter", "where"]

/-- The name under which a section is written. -/
def name : Section → String
  | select => "SELECT"
  | aggregate => "CALCULATION"
  | filter => "WHERE"

/-- The section that a key names. -/
def ofKey? (key : String) : Option Section :=
  all.find? fun s => s.spellings.contains key

end Section

/-- The members of entries. -/
inductive EntryKey where
  | field
  | calculation
  | op
  | condition
deriving DecidableEq, Repr

namespace EntryKey

/-- The name under which a member is written. -/
def name : EntryKey → String
  | field => "field_name"
  | calculation => "calculation"
  | op => "where"
  | condition => "condition"

/-- The names under which a member is read. -/
def spellings : EntryKey → List String
  | field => ["field_name", "fieldName"]
  | calculation => ["calculation"]
  | op => ["where", "op"]
  | condition => ["condition", "value"]

end EntryKey

/-- The members of an entry that were read so far. -/
structure EntryDraft where
  field : Option Alias
  calculation : Option Calculation
  op : Option Comparison
  condition : Option String
deriving DecidableEq, Repr

namespace EntryDraft

/-- Nothing read so far. -/
def empty : EntryDraft := ⟨none, none, none, none⟩

/-- Whether a member was read. -/
def has (e : EntryDraft) : EntryKey → Bool
  | .field => e.field.isSome
  | .calculation => e.calculation.isSome
  | .op => e.op.isSome
  | .condition => e.condition.isSome

/-- The depth that is left inside an entry of a section of a request. -/
def conditionDepth : Nat := nestingLimit - 3

/-- Reads a condition; it is kept as text. -/
def readCondition (d : Doc) : Reading String := do
  match ← d.value conditionDepth with
  | .text s => return s
  | .number n => return n.render
  | .bool b => return toString b
  | other => refuse (.compound other.render)

/-- Reads the value of a member. -/
def set (e : EntryDraft) (key : EntryKey) (d : Doc) : Reading EntryDraft :=
  match key with
  | .field => do return { e with field := some (← d.asText) }
  | .calculation => do return { e with calculation := some (← Calculation.ofDoc d) }
  | .op => do return { e with op := some (← Comparison.ofDoc d) }
  | .condition => do return { e with condition := some (← readCondition d) }

/-- Reads a member of an entry that knows the given keys. -/
def readMember (keys : List EntryKey) (name : String) (d : Doc) (e : EntryDraft) :
    Reading EntryDraft :=
  match keys.find? fun key => key.spellings.contains name with
  | some key => if e.has key then refuse (.repeatedMember key.name) else e.set key d
  | none => do
    d.skip
    return e

/-- A member that must have been read. -/
def need {α : Type} (key : EntryKey) : Option α → Reading α
  | some a => .ok a
  | none => refuse (.missingMember key.name)

end EntryDraft

/-- The members of an entry in order, and what an entry is called in messages. -/
structure EntryShape where
  keys : List EntryKey
  noun : String
deriving DecidableEq, Repr

namespace EntryShape

/-- The members of a select entry. -/
def select : EntryShape := ⟨[.field], "struct SelectField"⟩

/-- The members of an aggregate entry. -/
def aggregate : EntryShape := ⟨[.field, .calculation], "struct AggregateField"⟩

/-- The members of a filter entry. -/
def filter : EntryShape := ⟨[.field, .op, .condition], "struct FilterField"⟩

/-- What an entry written as an array must be. -/
def counted (s : EntryShape) : String :=
  s!"{s.noun} with {s.keys.length} element" ++ if s.keys.length = 1 then "" else "s"

/-- Reads the values of an entry written as an array, from one member on. -/
def readValues (s : EntryShape) : List EntryKey → Items → EntryDraft → Reading EntryDraft
  | [], items, e => do
    items.finish
    return e
  | key :: keys, items, e => do
    match ← items.next? with
    | some (d, rest) => s.readValues keys rest (← e.set key d)
    | none => refuse (.wrongLength (s.keys.length - (keys.length + 1)) s.counted)

/-- Reads the members of an entry. -/
def read (s : EntryShape) : Doc → Reading EntryDraft
  | .array items => s.readValues s.keys items .empty
  | .object members => members.readInto (EntryDraft.readMember s.keys) .empty
  | d => d.mismatch s.noun

end EntryShape

/-- Reads an entry of the select section. -/
def readSelect (d : Doc) : Reading Alias := do
  let e ← EntryShape.select.read d
  EntryDraft.need .field e.field

/-- Reads an entry of the aggregate section. -/
def AggregateItem.ofDoc (d : Doc) : Reading AggregateItem := do
  let e ← EntryShape.aggregate.read d
  let field ← EntryDraft.need .field e.field
  let calculation ← EntryDraft.need .calculation e.calculation
  return ⟨field, calculation⟩

/-- Reads an entry of the filter section. -/
def FilterItem.ofDoc (d : Doc) : Reading FilterItem := do
  let e ← EntryShape.filter.read d
  let field ← EntryDraft.need .field e.field
  let op ← EntryDraft.need .op e.op
  let condition ← EntryDraft.need .condition e.condition
  return ⟨field, op, condition⟩

/-- The sections of a request that were read so far. -/
structure RequestDraft where
  select : Option (List Alias)
  aggregate : Option (List AggregateItem)
  filter : Option (List FilterItem)
deriving DecidableEq, Repr

namespace RequestDraft

/-- Nothing read so far. -/
def empty : RequestDraft := ⟨none, none, none⟩

/-- Whether a section was read. -/
def has (r : RequestDraft) : Section → Bool
  | .select => r.select.isSome
  | .aggregate => r.aggregate.isSome
  | .filter => r.filter.isSome

/-- Reads a section. -/
def set (r : RequestDraft) (s : Section) (d : Doc) : Reading RequestDraft :=
  match s with
  | .select => do return { r with select := some (← d.asList readSelect) }
  | .aggregate => do return { r with aggregate := some (← d.asList AggregateItem.ofDoc) }
  | .filter => do return { r with filter := some (← d.asList FilterItem.ofDoc) }

/-- Reads a member of a request. -/
def readMember (name : String) (d : Doc) (r : RequestDraft) : Reading RequestDraft :=
  match Section.ofKey? name with
  | some s => if r.has s then refuse (.repeatedMember s.name) else r.set s d
  | none => refuse (.unknownMember name (Section.all.flatMap Section.spellings))

/-- Reads the sections of a request written as an array, as far as it goes. -/
def readSections : List Section → Items → RequestDraft → Reading RequestDraft
  | [], items, r => do
    items.finish
    return r
  | s :: rest, items, r => do
    match ← items.next? with
    | some (d, items) => readSections rest items (← r.set s d)
    | none => return r

/-- The request, in which a section that was not read is empty. -/
def toRequest (r : RequestDraft) : Request :=
  ⟨r.select.getD [], r.aggregate.getD [], r.filter.getD []⟩

end RequestDraft

namespace Request

/-- Reads a request from a document. -/
def ofDoc (d : Doc) : Reading Request :=
  RequestDraft.toRequest <$> match d with
    | .array items => RequestDraft.readSections Section.all items .empty
    | .object members => members.readInto RequestDraft.readMember .empty
    | d => d.mismatch "struct QueryRequest"

/-- The entry of a selected field. -/
def selectEntry (field : Alias) : Value :=
  .object [(EntryKey.name .field, .text field)]

/-- The entry of a calculation. -/
def aggregateEntry (item : AggregateItem) : Value :=
  .object [(EntryKey.name .field, .text item.field),
    (EntryKey.name .calculation, .text item.calculation.name)]

/-- The entry of a filter. -/
def filterEntry (item : FilterItem) : Value :=
  .object [(EntryKey.name .field, .text item.field), (EntryKey.name .op, .text item.op.sql),
    (EntryKey.name .condition, .text item.condition)]

/-- A request as a JSON value. -/
def toJson (r : Request) : Value :=
  .object [(Section.name .select, .array (r.select.map selectEntry)),
    (Section.name .aggregate, .array (r.aggregate.map aggregateEntry)),
    (Section.name .filter, .array (r.filter.map filterEntry))]

end Request

end StarPlan
