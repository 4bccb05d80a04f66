import StarPlan.Schema.Fault

/-!
# Dimension tables

A dimension table describes the things that facts are about. Each row is known by its service
key; the other columns are attributes under the names that users see.

`DimensionTable.offer` checks a field against the table as it stands and appends it. The
checks run in a fixed order, so that a field with several faults is refused for the first.
-/

namespace StarPlan

/-- A column of a dimension table. -/
structure DimensionField where
  /-- The column in the database. -/
  column : String
  /-- The alias under which requests know the field. -/
  name : Alias
  kind : FieldKind
  frontName : Option String
  dataType : Option String
  /-- Counting this attribute may be answered by counting the service key. -/
  countsByKey : Bool
deriving DecidableEq, Repr

namespace DimensionField

/-- The key column of a table. -/
def serviceKey (column : String) (name : Alias) : DimensionField :=
  ⟨column, name, .serviceKey, none, none, false⟩

/-- An attribute under the name that users see. -/
def named (column : String) (name : Alias) (frontName : String) : DimensionField :=
  ⟨column, name, .dimension, some frontName, none, false⟩

/-- Whether the column is the key. -/
def isKey (f : DimensionField) : Bool :=
  f.kind == .serviceKey

end DimensionField

/-- A table of attributes that facts join through its service key. -/
structure DimensionTable where
  name : TableName
  fields : List DimensionField
deriving DecidableEq, Repr

namespace DimensionTable

/-- A table without columns. -/
def new (name : TableName) : DimensionTable := ⟨name, []⟩

/-- The field under an alias. -/
def field? (t : DimensionTable) (name : Alias) : Option DimensionField :=
  t.fields.find? fun f => f.name == name

/-- The first service key. -/
def serviceKey? (t : DimensionTable) : Option DimensionField :=
  t.fields.find? DimensionField.isKey

/-- Whether the display name of a field suits its kind: keys have none, attributes have one. -/
def nameFault? (f : DimensionField) : Option DimensionFieldFault :=
  match f.kind, f.frontName with
  | .serviceKey, some _ => some .namedKey
  | .dimension, none => some .unnamed
  | _, _ => none

/-- The first reason to refuse a field in a table. -/
def fault? (t : DimensionTable) (f : DimensionField) : Option DimensionFieldFault :=
  if f.kind = .value then some (.wrongKind f.kind)
  else if (t.field? f.name).isSome then some .repeatedAlias
  else (nameFault? f).or <|
    if f.isKey && f.countsByKey then some .countedKey
    else if f.isKey && t.serviceKey?.isSome then some .secondKey
    else none

/-- Appends a field that suits the table. -/
def offer (t : DimensionTable) (f : DimensionField) : Offer DimensionTable :=
  match t.fault? f with
  | some fault => ⟨some (.dimensionField fault f.name t.name), t⟩
  | none => ⟨none, { t with fields := t.fields ++ [f] }⟩

/-- The table with one more field, unless it is refused. -/
def addField (t : DimensionTable) (f : DimensionField) : Except SchemaFault DimensionTable :=
  (t.offer f).toExcept

theorem offer_accepts_iff {t : DimensionTable} {f : DimensionField} :
    (t.offer f).fault? = none ↔ t.fault? f = none := by
  rw [offer]
  cases t.fault? f <;> simp

theorem addField_eq_ok_iff {t t' : DimensionTable} {f : DimensionField} :
    t.addField f = .ok t' ↔ t.fault? f = none ∧ t' = { t with fields := t.fields ++ [f] } := by
  rw [addField, Offer.toExcept_eq_ok_iff, offer]
  cases t.fault? f <;> simp

/-- A field that is accepted comes last. -/
theorem fields_of_accepted {t : DimensionTable} {f : DimensionField} :
    (t.offer f).fault? = none → (t.offer f).left.fields = t.fields ++ [f] := by
  rw [offer]
  cases t.fault? f with
  | some fault => exact nofun
  | none => exact fun _ => rfl

/-- A field that is refused changes nothing. -/
theorem left_of_refused {t : DimensionTable} {f : DimensionField} :
    (t.offer f).fault? ≠ none → (t.offer f).left = t := by
  rw [offer]
  cases t.fault? f with
  | some fault => exact fun _ => rfl
  | none => exact fun refused => absurd rfl refused

end DimensionTable

end StarPlan
