import StarPlan.FieldKind
import StarPlan.Name

/-!
# What can be wrong with a schema

Every way in which a field, a table or a collection of tables is refused, as a cause with the
names involved. `SchemaFault.message` is the wording shown to users; which of several causes is
reported is decided where the field or table is added.

Tables and schemas are made by offering them one part after another. An `Offer` is what comes of
one such call: the caller may stop at a refusal, or go on with what the call has left.
-/

namespace StarPlan

/-- Why a dimension table refuses a field. -/
inductive DimensionFieldFault where
  | wrongKind (kind : FieldKind)
  | repeatedAlias
  | namedKey
  | unnamed
  | countedKey
  | secondKey
deriving DecidableEq, Repr

/-- Why a fact table refuses a field. -/
inductive FactFieldFault where
  | repeatedAlias
  | namedKey
  | calculatedKey
  | unnamed (kind : FieldKind)
  | looseFollowing
deriving DecidableEq, Repr

/-- Why a schema, or a part of one, is refused. -/
inductive SchemaFault where
  | unknownCalculation (text : String)
  | unknownFieldKind (text : String)
  | dimensionField (fault : DimensionFieldFault) (field : Alias) (table : TableName)
  | factField (fault : FactFieldFault) (field : Alias) (table : TableName)
  | repeatedTable (table : TableName)
  | secondBase (existing table : TableName)
  | keyless (table : TableName)
  | exposedTwice (field : Alias) (table owner : TableName)
  | missingDirectory (kind path : String)
  | inFile (path : String) (fault : SchemaFault)
deriving DecidableEq, Repr

/-- The wording of a refused dimension field. -/
def DimensionFieldFault.message (field : Alias) (table : TableName) :
    DimensionFieldFault → String
  | .wrongKind kind =>
    s!"field type '{kind.name}' of '{field}' in dimension table {table} " ++
      "should be one of [service_key, dimension]"
  | .repeatedAlias => s!"alias '{field}' already exists in dimension table {table}"
  | .namedKey => s!"front_name is set on service_key field '{field}' in dimension table {table}"
  | .unnamed =>
    s!"front_name should be specified on dimension field '{field}' in dimension table {table}"
  | .countedKey =>
    s!"use_sk_for_count is set on service_key field '{field}' in dimension table {table}"
  | .secondKey => s!"service_key already exists in dimension table {table}"

/-- The wording of a refused fact field. -/
def FactFieldFault.message (field : Alias) (table : TableName) : FactFieldFault → String
  | .repeatedAlias => s!"repeated alias '{field}' inside data table {table}"
  | .namedKey => s!"front_name is set on service_key field '{field}' in data table {table}"
  | .calculatedKey =>
    s!"service_key field '{field}' in data table {table} cannot carry a calculation"
  | .unnamed kind =>
    s!"front_name should be specified on {kind.name} field '{field}' in data table {table}"
  | .looseFollowing =>
    s!"following_calculation on field '{field}' in data table {table} requires a calculation"

/-- The wording of a refused schema. -/
def SchemaFault.message : SchemaFault → String
  | .unknownCalculation text =>
    s!"calculation '{text}' is not one of [" ++
      ", ".intercalate (Calculation.all.map Calculation.name) ++ "]"
  | .unknownFieldKind text =>
    s!"field type '{text}' is not one of [" ++
      ", ".intercalate (FieldKind.all.map FieldKind.name) ++ "]"
  | .dimensionField fault field table => fault.message field table
  | .factField fault field table => fault.message field table
  | .repeatedTable table => s!"duplicate table name {table}"
  | .secondBase existing table =>
    s!"base table already set to {existing}, cannot also use {table}"
  | .keyless table => s!"dimension table {table} has no service_key field"
  | .exposedTwice field table owner =>
    s!"alias '{field}' of dimension table {table} is already exposed by dimension table {owner}"
  | .missingDirectory kind path => s!"{kind} directory not found: {path}"
  | .inFile path fault => s!"{path}: {fault.message}"

/-- Reads the name of a calculation; an unknown one is quoted without the blanks around it. -/
def Calculation.ofText (text : String) : Except SchemaFault Calculation :=
  match Calculation.ofText? text with
  | some c => .ok c
  | none => .error (.unknownCalculation (Text.trim text))

/-- Reads a slot that may hold a calculation. -/
def Calculation.ofSlot (text : String) : Except SchemaFault (Option Calculation) :=
  if isOpenSlot text then .ok none else (Calculation.ofText (Text.trim text)).map some

/-- Reads the name of a field kind; an unknown one is quoted in the form that was compared. -/
def FieldKind.ofText (text : String) : Except SchemaFault FieldKind :=
  match FieldKind.ofText? text with
  | some k => .ok k
  | none => .error (.unknownFieldKind (FieldKind.plainForm text))

/-- What comes of offering a part to a table or schema. -/
structure Offer (σ : Type) where
  /-- The fault for which the part is refused, if it is. -/
  fault? : Option SchemaFault
  /-- The table or schema that the call leaves. -/
  left : σ
deriving DecidableEq, Repr

/-- What a caller has who stops at a refusal. -/
def Offer.toExcept {σ : Type} : Offer σ → Except SchemaFault σ
  | ⟨none, x⟩ => .ok x
  | ⟨some fault, _⟩ => .error fault

theorem Offer.toExcept_eq_ok_iff {σ : Type} {offer : Offer σ} {x : σ} :
    offer.toExcept = .ok x ↔ offer.fault? = none ∧ x = offer.left := by
  obtain ⟨_ | fault, left⟩ := offer <;> simp [toExcept, eq_comm]

end StarPlan
