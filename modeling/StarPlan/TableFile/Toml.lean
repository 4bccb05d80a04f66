import StarPlan.TableFile.Basic
import StarPlan.Toml.Document

/-!
# Table files in TOML

How the members of a table file are written in TOML. An entry of a column may also be an array
of its members in order; what goes beyond them is passed over. A date or time counts as a table
with one member that nobody knows.
-/

namespace StarPlan

namespace Toml.Value

/-- How a value is described in a message. -/
def found : Value → Found
  | .text s => .text s
  | .integer i => .integer i
  | .float x => .float x.describe
  | .boolean b => .boolean b
  | .moment _ => .map
  | .array _ => .sequence
  | .table _ => .map

/-- A value that must be a text. -/
def asText : Value → Except ContentFault String
  | .text s => .ok s
  | v => .error (.wrongType v.found "a string")

/-- A value that must be a switch. -/
def asSwitch : Value → Except ContentFault Bool
  | .boolean b => .ok b
  | .text s => switchOfText s
  | _ => .error .noSwitch

/-- How TOML writes single cells: what is written is never absent. -/
def cells : CellReader (Except ContentFault) Value where
  text := asText
  optional := fun v => v.asText.map some
  switch := asSwitch

/-- The members of a table. A date or time is a table of one member, its text. -/
def members? : Value → Option (List (String × Value))
  | .table members => some members
  | .moment s => some [("datetime", .text s)]
  | _ => none

end Toml.Value

open Toml (Value)

namespace FieldEntry

/-- Reads the members of an entry written as an array. -/
def ofItems : List FieldKey → List Value → FieldDraft → Except ContentFault FieldDraft
  | key :: keys, v :: vs, d => do ofItems keys vs (← d.set Value.cells key v)
  | _, _, d => .ok d

/-- Reads an entry from TOML. -/
def ofToml (v : Value) : Except ContentFault FieldEntry :=
  match v with
  | .array items => do
    let d ← ofItems FieldKey.all items .empty
    if items.length < 2 then
      throw (.wrongLength items.length s!"{noun} with {FieldKey.all.length} elements")
    d.finish
  | v =>
    match v.members? with
    | none => .error (.wrongType v.found noun)
    | some members => do
      let d ← members.foldlM (fun d (name, v) =>
        match FieldKey.ofName? name with
        | some key => d.set Value.cells key v
        | none => pure d) FieldDraft.empty
      d.finish

end FieldEntry

namespace TableFile

/-- Reads the entries of all columns from TOML. -/
def fieldsOfToml (v : Value) : Except ContentFault (List (String × FieldEntry)) :=
  match v.members? with
  | none => .error (.wrongType v.found fieldsNoun)
  | some members => members.foldlM (fun entries (column, v) => do
      addEntry entries column (← FieldEntry.ofToml v)) []

/-- Reads a table file from the members of a TOML document. -/
def ofToml (members : List (String × Value)) : Except ContentFault TableFile := do
  let d ← members.foldlM (fun d (name, v) =>
    match TableKey.ofName? name with
    | some key => d.set Value.cells fieldsOfToml key v
    | none => pure d) TableDraft.empty
  d.finish

end TableFile

end StarPlan
