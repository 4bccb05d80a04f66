import StarPlan.Number.Float

/-!
# TOML values

The values of a TOML document. The members of a table stand in the order in which the document
defines them; a table that was first opened only on the way to another one stands where its own
header does. A date or time is kept in its canonical text.
-/

namespace StarPlan.Toml

/-- A value of a document. -/
inductive Value where
  | text (text : String)
  | integer (value : Int)
  | float (value : FloatValue)
  | boolean (value : Bool)
  | moment (text : String)
  | array (items : List Value)
  | table (members : List (String × Value))

end StarPlan.Toml
