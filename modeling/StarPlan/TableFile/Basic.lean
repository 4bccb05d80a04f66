import StarPlan.Content.Fault

/-!
# Table files

A table file describes one table: where it is kept, whether it is the base table, and its
columns with what each is for. The same members are read from every document format; a format
supplies a `CellReader` that says how a single text or switch is written in it.

Members are collected in a draft in the order of the file. A required member that is missing is
reported at the end, in the order in which the members are listed here.
-/

namespace StarPlan

/-- What a table file says about a column; its name is the alias for requests. -/
structure FieldEntry where
  fieldType : String
  name : String
  frontName : Option String
  dataType : Option String
  calculation : Option String
  following : Option String
  countsByKey : Bool
deriving DecidableEq, Repr

/-- A table file. -/
structure TableFile where
  database : String
  schema : String
  table : String
  isBase : Bool
  /-- The entries by column, in the order of the file. -/
  fields : List (String × FieldEntry)
deriving DecidableEq, Repr

/-- How a format writes single cells. -/
structure CellReader (m : Type → Type) (V : Type) where
  text : V → m String
  optional : V → m (Option String)
  switch : V → m Bool

/-- The members of a column's entry. -/
inductive FieldKey where
  | fieldType
  | fieldName
  | frontName
  | dataType
  | calculation
  | following
  | countsByKey
deriving DecidableEq, Repr

namespace FieldKey

/-- Every member, in order. -/
def all : List FieldKey :=
  [fieldType, fieldName, frontName, dataType, calculation, following, countsByKey]

/-- The name of a member. -/
def name : FieldKey → String
  | fieldType => "field_type"
  | fieldName => "alias"
  | frontName => "front_name"
  | dataType => "data_type"
  | calculation => "calculation_type"
  | following => "following_calculation"
  | countsByKey => "use_sk_for_count"

/-- The member of a name. -/
def ofName? (name : String) : Option FieldKey :=
  all.find? fun k => k.name == name

end FieldKey

/-- The members of an entry that were read so far. -/
structure FieldDraft where
  fieldType : Option String
  name : Option String
  frontName : Option (Option String)
  dataType : Option (Option String)
  calculation : Option (Option String)
  following : Option (Option String)
  countsByKey : Option Bool
deriving DecidableEq, Repr

namespace FieldDraft

/-- Nothing read so far. -/
def empty : FieldDraft := ⟨none, none, none, none, none, none, none⟩

/-- Whether a member was read. -/
def has (d : FieldDraft) : FieldKey → Bool
  | .fieldType => d.fieldType.isSome
  | .fieldName => d.name.isSome
  | .frontName => d.frontName.isSome
  | .dataType => d.dataType.isSome
  | .calculation => d.calculation.isSome
  | .following => d.following.isSome
  | .countsByKey => d.countsByKey.isSome

/-- Reads a member. -/
def set {m : Type → Type} [Monad m] {V : Type} (cells : CellReader m V) (d : FieldDraft)
    (key : FieldKey) (v : V) : m FieldDraft :=
  match key with
  | .fieldType => do return { d with fieldType := some (← cells.text v) }
  | .fieldName => do return { d with name := some (← cells.text v) }
  | .frontName => do return { d with frontName := some (← cells.optional v) }
  | .dataType => do return { d with dataType := some (← cells.optional v) }
  | .calculation => do return { d with calculation := some (← cells.optional v) }
  | .following => do return { d with following := some (← cells.optional v) }
  | .countsByKey => do return { d with countsByKey := some (← cells.switch v) }

/-- The entry, if nothing required is missing. -/
def finish (d : FieldDraft) : Except ContentFault FieldEntry :=
  match d.fieldType, d.name with
  | none, _ => .error (.missingMember (FieldKey.name .fieldType))
  | _, none => .error (.missingMember (FieldKey.name .fieldName))
  | some fieldType, some name =>
    .ok ⟨fieldType, name, d.frontName.join, d.dataType.join, d.calculation.join,
      d.following.join, d.countsByKey.getD false⟩

end FieldDraft

/-- The members of a table file. -/
inductive TableKey where
  | database
  | schema
  | table
  | isBase
  | fields
deriving DecidableEq, Repr

namespace TableKey

/-- Every member, in order. -/
def all : List TableKey := [database, schema, table, isBase, fields]

/-- The name of a member. -/
def name : TableKey → String
  | database => "database"
  | schema => "schema"
  | table => "table"
  | isBase => "base_table"
  | fields => "fields"

/-- The member of a name. -/
def ofName? (name : String) : Option TableKey :=
  all.find? fun k => k.name == name

end TableKey

/-- The members of a table file that were read so far. -/
structure TableDraft where
  database : Option String
  schema : Option String
  table : Option String
  isBase : Option Bool
  fields : Option (List (String × FieldEntry))
deriving DecidableEq, Repr

namespace TableDraft

/-- Nothing read so far. -/
def empty : TableDraft := ⟨none, none, none, none, none⟩

/-- Whether a member was read. -/
def has (d : TableDraft) : TableKey → Bool
  | .database => d.database.isSome
  | .schema => d.schema.isSome
  | .table => d.table.isSome
  | .isBase => d.isBase.isSome
  | .fields => d.fields.isSome

/-- Reads a member; `entries` reads the columns. -/
def set {m : Type → Type} [Monad m] {V : Type} (cells : CellReader m V)
    (entries : V → m (List (String × FieldEntry))) (d : TableDraft) (key : TableKey) (v : V) :
    m TableDraft :=
  match key with
  | .database => do return { d with database := some (← cells.text v) }
  | .schema => do return { d with schema := some (← cells.text v) }
  | .table => do return { d with table := some (← cells.text v) }
  | .isBase => do return { d with isBase := some (← cells.switch v) }
  | .fields => do return { d with fields := some (← entries v) }

/-- The table file, if nothing required is missing. -/
def finish (d : TableDraft) : Except ContentFault TableFile :=
  match d.database, d.schema, d.table with
  | none, _, _ => .error (.missingMember (TableKey.name .database))
  | _, none, _ => .error (.missingMember (TableKey.name .schema))
  | _, _, none => .error (.missingMember (TableKey.name .table))
  | some database, some schema, some table =>
    .ok ⟨database, schema, table, d.isBase.getD false, d.fields.getD []⟩

end TableDraft

/-- Adds the entry of a column; no column may be listed twice. -/
def addEntry (entries : List (String × FieldEntry)) (column : String) (entry : FieldEntry) :
    Except ContentFault (List (String × FieldEntry)) :=
  if entries.any (·.1 == column) then .error (.repeatedColumn column)
  else .ok (entries ++ [(column, entry)])

/-- A switch that is written as a text: `true` or `false` in any letter case. -/
def switchOfText (text : String) : Except ContentFault Bool :=
  if Text.sameLetters text "true" then .ok true
  else if Text.sameLetters text "false" then .ok false
  else .error (.badSwitch text)

/-- What a document must hold to be a table file. -/
def TableFile.noun : String := "struct TableFile"

/-- What must stand under a column. -/
def FieldEntry.noun : String := "struct FieldEntry"

/-- What must stand under the member for columns. -/
def TableFile.fieldsNoun : String := "a map of source column to field definition"

end StarPlan
