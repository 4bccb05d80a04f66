import StarPlan.Text.Blank

/-!
# Field kinds

A column is the key of a dimension, an attribute to group by, or a measured value. Blanks
around the name of a kind and its letter case do not count when it is read.
-/

namespace StarPlan

/-- What a column is for. -/
inductive FieldKind where
  | serviceKey
  | dimension
  | value
deriving DecidableEq, Repr

namespace FieldKind

/-- Every kind, in the order in which they are listed to users. -/
def all : List FieldKind := [serviceKey, dimension, value]

/-- The name under which a kind is written and read. -/
def name : FieldKind → String
  | serviceKey => "service_key"
  | dimension => "dimension"
  | value => "value"

/-- The form of a text that is compared with the names: no blanks around it, lower case. -/
def plainForm (text : String) : String :=
  Text.lower (Text.trim text)

/-- Reads the name of a kind. -/
def ofText? (text : String) : Option FieldKind :=
  all.find? fun k => k.name == plainForm text

end FieldKind

end StarPlan
