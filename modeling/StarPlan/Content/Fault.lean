import StarPlan.Request.Basic
import StarPlan.Schema.Fault
import StarPlan.Text.Quoted

/-!
# What can be wrong with the content of a document

A document that is well formed may still not hold what is wanted: a value of another type, a
missing or repeated member, a text that is no name of anything. These causes are the same for
every document format, and so is their wording.
-/

namespace StarPlan

/-- What stands where something else is wanted. -/
inductive Found where
  | null
  | unitValue
  | boolean (value : Bool)
  | integer (value : Int)
  /-- A number that is no integer, in the layout of its format. -/
  | float (text : String)
  | text (text : String)
  | sequence
  | map
deriving DecidableEq, Repr

/-- Whether something is an integer that needs more than 64 bits. -/
def Found.isWide : Found → Bool
  | .integer value => value < -Int.ofNat (Nat.pow 2 63) || Int.ofNat (Nat.pow 2 64) ≤ value
  | _ => false

/-- How the width of an integer is told that needs more than 64 bits. -/
def wideness (value : Int) : String :=
  if value < -Int.ofNat (Nat.pow 2 63) then " as i128"
  else if value < Int.ofNat (Nat.pow 2 64) then ""
  else " as u128"

/-- How a value is described in a message. -/
def Found.describe : Found → String
  | .null => "null"
  | .unitValue => "unit value"
  | .boolean value => "boolean \x60" ++ toString value ++ "\x60"
  | .integer value => "integer \x60" ++ toString value ++ "\x60" ++ wideness value
  | .float s => "floating point \x60" ++ s ++ "\x60"
  | .text s => "string " ++ Text.quoted s
  | .sequence => "sequence"
  | .map => "map"

/-- Why the content of a document is refused. -/
inductive ContentFault where
  | wrongType (found : Found) (wanted : String)
  | wrongLength (length : Nat) (wanted : String)
  | missingMember (name : String)
  | repeatedMember (name : String)
  | unknownMember (name : String) (known : List String)
  | unknownVariant (name : String) (known : List String)
  | schema (fault : SchemaFault)
  | request (fault : RequestFault)
  /-- A filter condition that is no scalar, as compact text. -/
  | compound (text : String)
  /-- A switch that is neither a boolean nor a text. -/
  | noSwitch
  | badSwitch (text : String)
  | repeatedColumn (name : String)
deriving DecidableEq, Repr

/-- A name as it is shown in a message about members. -/
def inBackquotes (name : String) : String :=
  "\x60" ++ name ++ "\x60"

/-- The full wording of a schema fault. -/
def SchemaFault.report (f : SchemaFault) : String :=
  "schema error: " ++ f.message

/-- The full wording of a request fault. -/
def RequestFault.report (f : RequestFault) : String :=
  "request error: " ++ f.message

/-- The wording of refused content. -/
def ContentFault.message : ContentFault → String
  | .wrongType found wanted => "invalid type: " ++ found.describe ++ ", expected " ++ wanted
  | .wrongLength length wanted => s!"invalid length {length}, expected {wanted}"
  | .missingMember name => "missing field " ++ inBackquotes name
  | .repeatedMember name => "duplicate field " ++ inBackquotes name
  | .unknownMember name known =>
    "unknown field " ++ inBackquotes name ++ ", expected one of " ++
      ", ".intercalate (known.map inBackquotes)
  | .unknownVariant name known =>
    "unknown variant " ++ inBackquotes name ++ ", expected one of " ++
      ", ".intercalate (known.map inBackquotes)
  | .schema fault => fault.report
  | .request fault => fault.report
  | .compound text => s!"filter condition must be a string, number or bool, got {text}"
  | .noSwitch => "data did not match any variant of untagged enum Flag"
  | .badSwitch text => s!"expected true or false, got '{text}'"
  | .repeatedColumn name => s!"source column '{name}' is listed twice"

end StarPlan
