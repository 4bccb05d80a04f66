import StarPlan.Schema.Basic
import StarPlan.TableFile.Basic

/-!
# Tables from table files

A table file becomes a table entry by entry, in the order of the file. Aliases are trimmed;
display names and data types are trimmed too, and count as absent when they are blank or the
word `none`. The first entry that fails decides the fault: its kind is read first, then its
calculations, and then the table judges the field.
-/

namespace StarPlan

/-- An optional text of a table file, trimmed; blank texts and the word `none` are no text. -/
def presentText (text : Option String) : Option String :=
  text.bind fun s =>
    if Calculation.isOpenSlot s then none else some (Text.trim s)

/-- An optional calculation of a table file. -/
def presentCalculation : Option String → Except SchemaFault (Option Calculation)
  | some s => Calculation.ofSlot s
  | none => .ok none

namespace FieldEntry

/-- The dimension field of an entry. -/
def toDimensionField (column : String) (e : FieldEntry) : Except SchemaFault DimensionField := do
  let kind ← FieldKind.ofText e.fieldType
  return ⟨column, Text.trim e.name, kind, presentText e.frontName, presentText e.dataType,
    e.countsByKey⟩

/-- The fact field of an entry. -/
def toFactField (column : String) (e : FieldEntry) : Except SchemaFault FactField := do
  let kind ← FieldKind.ofText e.fieldType
  let calculation ← presentCalculation e.calculation
  let following ← presentCalculation e.following
  return ⟨column, Text.trim e.name, kind, calculation, following, presentText e.frontName,
    presentText e.dataType⟩

end FieldEntry

namespace TableFile

/-- The full name of the table. -/
def name (f : TableFile) : TableName :=
  f.database ++ "." ++ f.schema ++ "." ++ f.table

/-- The dimension table of a file. -/
def toDimension (f : TableFile) : Except SchemaFault DimensionTable :=
  f.fields.foldlM (fun t (column, e) => do t.addField (← e.toDimensionField column))
    (DimensionTable.new f.name)

/-- The fact table of a file. -/
def toFact (f : TableFile) : Except SchemaFault FactTable :=
  let new := FactTable.new f.name
  f.fields.foldlM (fun t (column, e) => do t.addField (← e.toFactField column))
    (if f.isBase then new.asBase else new)

end TableFile

end StarPlan
