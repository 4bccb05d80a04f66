import StarPlan.Schema.Fault

/-!
# Fact tables

A fact table holds measured rows. A column without a calculation can be selected, grouped and
aggregated as it is; a column with one already holds that aggregate over the rows it stands
for, and at most one further calculation may be laid over it.

`FactTable.offer` checks a field against the table as it stands and appends it. The checks
run in a fixed order, so that a field with several faults is refused for the first.
-/

namespace StarPlan

/-- A column of a fact table. -/
structure FactField where
  /-- The column in the database. -/
  column : String
  /-- The alias under which requests know the field. -/
  name : Alias
  kind : FieldKind
  /-- The calculation whose results the column holds. -/
  calculation : Option Calculation
  /-- The one calculation that may be laid over the stored results. -/
  following : Option Calculation
  frontName : Option String
  dataType : Option String
deriving DecidableEq, Repr

namespace FactField

/-- The column that joins a dimension. -/
def serviceKey (column : String) (name : Alias) : FactField :=
  ⟨column, name, .serviceKey, none, none, none, none⟩

/-- A column without a calculation, under the name that users see. -/
def named (kind : FieldKind) (column : String) (name : Alias) (frontName : String) :
    FactField :=
  ⟨column, name, kind, none, none, some frontName, none⟩

/-- A column that holds results of a calculation. -/
def calculated (column : String) (name : Alias) (calculation : Calculation)
    (following : Option Calculation) : FactField :=
  ⟨column, name, .value, some calculation, following, none, none⟩

/-- Whether a column can be selected and grouped as it is. -/
def isPlain (f : FactField) : Bool :=
  f.calculation.isNone

/-- Whether the column is a key. -/
def isKey (f : FactField) : Bool :=
  f.kind == .serviceKey

end FactField

/-- A table of facts: raw rows, or rows aggregated beforehand. -/
structure FactTable where
  name : TableName
  /-- Whether this is the raw table of finest grain. -/
  isBase : Bool
  fields : List FactField
deriving DecidableEq, Repr

namespace FactTable

/-- A table without columns that is not the base table. -/
def new (name : TableName) : FactTable := ⟨name, false, []⟩

/-- Marks the table as the raw table of finest grain. -/
def asBase (t : FactTable) : FactTable := { t with isBase := true }

/-- The field under an alias. -/
def field? (t : FactTable) (name : Alias) : Option FactField :=
  t.fields.find? fun f => f.name == name

/-- The field under an alias, if it carries no calculation. -/
def plainField? (t : FactTable) (name : Alias) : Option FactField :=
  (t.field? name).filter FactField.isPlain

/-- Whether an alias is exposed with exactly this calculation; none asks for a plain column. -/
def hasField (t : FactTable) (name : Alias) (calculation : Option Calculation) : Bool :=
  (t.field? name).any fun f => f.calculation == calculation

/-- The aliases of the columns without a calculation, in column order. -/
def plainAliases (t : FactTable) : List Alias :=
  (t.fields.filter FactField.isPlain).map (·.name)

/-- The first reason to refuse a field for what it is a key for, or for lack of a name. -/
def kindFault? (f : FactField) : Option FactFieldFault :=
  if f.isKey then
    if f.frontName.isSome then some .namedKey
    else if f.calculation.isSome then some .calculatedKey
    else none
  else if f.frontName.isNone && f.calculation.isNone then some (.unnamed f.kind)
  else none

/-- The first reason to refuse a field in a table. -/
def fault? (t : FactTable) (f : FactField) : Option FactFieldFault :=
  if (t.field? f.name).isSome then some .repeatedAlias
  else (kindFault? f).or <|
    if f.following.isSome && f.calculation.isNone then some .looseFollowing else none

/-- Appends a field that suits the table. -/
def offer (t : FactTable) (f : FactField) : Offer FactTable :=
  match t.fault? f with
  | some fault => ⟨some (.factField fault f.name t.name), t⟩
  | none => ⟨none, { t with fields := t.fields ++ [f] }⟩

/-- The table with one more field, unless it is refused. -/
def addField (t : FactTable) (f : FactField) : Except SchemaFault FactTable :=
  (t.offer f).toExcept

theorem offer_accepts_iff {t : FactTable} {f : FactField} :
    (t.offer f).fault? = none ↔ t.fault? f = none := by
  rw [offer]
  cases t.fault? f <;> simp

theorem addField_eq_ok_iff {t t' : FactTable} {f : FactField} :
    t.addField f = .ok t' ↔ t.fault? f = none ∧ t' = { t with fields := t.fields ++ [f] } := by
  rw [addField, Offer.toExcept_eq_ok_iff, offer]
  cases t.fault? f <;> simp

/-- A field that is accepted comes last. -/
theorem fields_of_accepted {t : FactTable} {f : FactField} :
    (t.offer f).fault? = none → (t.offer f).left.fields = t.fields ++ [f] := by
  rw [offer]
  cases t.fault? f with
  | some fault => exact nofun
  | none => exact fun _ => rfl

/-- A field that is refused changes nothing. -/
theorem left_of_refused {t : FactTable} {f : FactField} :
    (t.offer f).fault? ≠ none → (t.offer f).left = t := by
  rw [offer]
  cases t.fault? f with
  | some fault => exact fun _ => rfl
  | none => exact fun refused => absurd rfl refused

end FactTable

end StarPlan
