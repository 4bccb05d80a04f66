import StarPlan.TableFile.Basic
import StarPlan.Yaml.Reading

/-!
# Table files in YAML

How the members of a table file are written in YAML. Any scalar is a text, also one that looks
like a number or a switch; a switch is a boolean or a text for one. A fault in a switch, and a
member that is missing or repeated, are reported for the mapping around it.
-/

namespace StarPlan

open Yaml (Cell Doc Members Path Reading)

/-- How YAML writes single cells. A switch may hide in a value that is nested up to a depth,
and must be told from it. -/
def Yaml.cells (depth : Nat) : CellReader Reading Cell where
  text := fun c => c.doc.asText c.path "a string"
  optional := fun c => c.doc.asOptionalText c.path "a string"
  switch := fun c => do
    match ← c.doc.examine depth c.path with
    | .boolean b => return b
    | .text s => Yaml.judge c.owner (switchOfText s)
    | _ => Yaml.refuse c.owner .noSwitch

/-- What a key that names a member must be. -/
def Yaml.memberNoun : String := "field identifier"

namespace FieldEntry

/-- Reads an entry from YAML. It stands inside two mappings and is one itself. -/
def ofYaml (c : Cell) : Reading FieldEntry := do
  let members ← c.doc.asMembers c.path noun
  let d ← members.readInto c.path Yaml.memberNoun (fun name cell (d : FieldDraft) =>
    match FieldKey.ofName? name with
    | none => do
      cell.doc.skip
      return d
    | some key =>
      if d.has key then Yaml.refuse c.path (.repeatedMember name)
      else d.set (Yaml.cells (Yaml.nestingLimit - 3)) key cell) .empty
  Yaml.judge c.path d.finish

end FieldEntry

namespace TableFile

/-- Reads the entries of all columns from YAML. -/
def fieldsOfYaml (c : Cell) : Reading (List (String × FieldEntry)) := do
  let members ← c.doc.asMembers c.path fieldsNoun
  members.readInto c.path "a string" (fun column cell entries => do
    Yaml.judge c.path (addEntry entries column (← FieldEntry.ofYaml cell))) []

/-- Reads a table file from the node of a YAML document. -/
def ofDoc (doc : Doc) : Reading TableFile := do
  let path : Path := []
  let members ← doc.asMembers path noun
  let d ← members.readInto path Yaml.memberNoun (fun name cell (d : TableDraft) =>
    match TableKey.ofName? name with
    | none => do
      cell.doc.skip
      return d
    | some key =>
      if d.has key then Yaml.refuse path (.repeatedMember name)
      else d.set (Yaml.cells (Yaml.nestingLimit - 1)) fieldsOfYaml key cell) .empty
  Yaml.judge path d.finish

/-- Reads a table file from YAML. -/
def ofYaml (text : String) : Except Yaml.Fault TableFile :=
  Yaml.readText ofDoc text

end TableFile

end StarPlan
