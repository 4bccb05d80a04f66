import StarPlan.Json.Number
import StarPlan.Keyed

/-!
# JSON values and their compact text

A value that was read in full, and the text of a value without blanks. The members of an
object are written in the order in which they are held; a value that was read from a text
holds them in the order of their keys.
-/

namespace StarPlan.Json

/-- A JSON value. -/
inductive Value where
  | null
  | bool (value : Bool)
  | number (number : Number)
  | text (text : String)
  | array (items : List Value)
  | object (members : List (String × Value))

/-- A character inside a written string. Of the control characters five have an escape of one
letter; the others are written as UTF-16 units. -/
def escapeChar (c : Char) : List Char :=
  if c = '"' then ['\\', '"']
  else if c = '\\' then ['\\', '\\']
  else if c = '\x08' then ['\\', 'b']
  else if c = '\x0c' then ['\\', 'f']
  else if c = '\n' then ['\\', 'n']
  else if c = '\r' then ['\\', 'r']
  else if c = '\t' then ['\\', 't']
  else if c < ' ' then
    ['\\', 'u', '0', '0'] ++ (if c.toNat < 16 then ['0'] else []) ++ Nat.toDigits 16 c.toNat
  else [c]

/-- A string as it is written. -/
def writeText (s : String) : List Char :=
  '"' :: (s.toList.flatMap escapeChar ++ ['"'])

mutual

/-- The compact text of a value. -/
def Value.write : Value → List Char
  | .null => ['n', 'u', 'l', 'l']
  | .bool true => ['t', 'r', 'u', 'e']
  | .bool false => ['f', 'a', 'l', 's', 'e']
  | .number n => n.render.toList
  | .text s => writeText s
  | .array items => '[' :: (writeItems items ++ [']'])
  | .object members => '{' :: (writeMembers members ++ ['}'])

/-- Items with commas between them. -/
def writeItems : List Value → List Char
  | [] => []
  | [v] => v.write
  | v :: vs => v.write ++ ',' :: writeItems vs

/-- Members with commas between them. -/
def writeMembers : List (String × Value) → List Char
  | [] => []
  | [(key, v)] => writeText key ++ ':' :: v.write
  | (key, v) :: vs => writeText key ++ ':' :: (v.write ++ ',' :: writeMembers vs)

end

/-- The compact text of a value. -/
def Value.render (v : Value) : String :=
  String.ofList v.write

end StarPlan.Json
