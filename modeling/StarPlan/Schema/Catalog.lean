import StarPlan.Schema.Basic

/-!
# The catalog of fields

What a user interface may offer: the columns of the base table that are neither keys nor
stored calculations, and every attribute of every dimension, listed by alias. Where both
expose an alias, the dimension describes it.
-/

namespace StarPlan

/-- How a field is presented to users. -/
structure FieldInfo where
  frontName : String
  kind : FieldKind
  dataType : Option String
deriving DecidableEq, Repr

/-- The presentation of a base table's column, if it has one. -/
def FactField.info? (f : FactField) : Option FieldInfo :=
  if f.isKey || !f.isPlain then none
  else f.frontName.map fun name => ⟨name, f.kind, f.dataType⟩

/-- The presentation of a dimension's column, if it has one. -/
def DimensionField.info? (f : DimensionField) : Option FieldInfo :=
  if f.kind = .dimension then f.frontName.map fun name => ⟨name, f.kind, f.dataType⟩ else none

namespace Schema

/-- The presented columns of the base table. -/
def baseInfos (s : Schema) : List (Alias × FieldInfo) :=
  (s.base?.map (·.fields)).getD [] |>.filterMap fun f => f.info?.map (f.name, ·)

/-- The presented columns of the dimensions, table by table. -/
def dimensionInfos (s : Schema) : List (Alias × FieldInfo) :=
  s.dimensions.values.flatMap fun t => t.fields.filterMap fun f => f.info?.map (f.name, ·)

/-- The fields that a user interface may offer, by alias. -/
def frontendFields (s : Schema) : Keyed FieldInfo :=
  .ofList (s.baseInfos ++ s.dimensionInfos)

end Schema

end StarPlan
