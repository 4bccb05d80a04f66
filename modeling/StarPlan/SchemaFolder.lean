import StarPlan.Fault
import StarPlan.Files.Pattern
import StarPlan.Schema.Catalog
import StarPlan.TableFile.Conversion
import StarPlan.TableFile.Toml
import StarPlan.TableFile.Yaml

/-!
# Schemas kept in a folder

A folder with a schema holds its dimension tables in one folder and its fact tables in another,
one table a file. The files of a folder are loaded in the order of their paths, all dimension
tables before all fact tables, and loading stops at the first fault.

Files are found by patterns that begin with the path of the folder as it is written, so the
characters that mean something in a pattern mean it in that path, too.
-/

namespace StarPlan

/-- A folder with a schema. -/
structure SchemaFolder where
  tree : FileTree
  /-- The path of the folder, as it is written. -/
  place : String
  /-- What the path is called in messages. -/
  title : String

/-- A schema with the files that it was loaded from, in order. Their paths begin in the folder
of the schema. -/
structure LoadedSchema where
  files : List FilePath
  schema : Schema

namespace SchemaFolder

/-- The endings of the files that are looked for. -/
def endings : List String := ["toml", "yml", "yaml"]

/-- How a path inside the folder is called in messages. -/
def titleOf (f : SchemaFolder) (p : FilePath) : String := f.title ++ "/" ++ p.toText

/-- The patterns of the files of a folder inside this one; none if the path of this one is no
pattern. -/
def patterns? (f : SchemaFolder) (inside : String) : Option (List PathPattern) := do
  let way ← (FilePath.ofText f.place).mapM NamePattern.ofText?
  return endings.map fun ending =>
    way ++ [.exactly inside, .withEnding ending]

/-- The files of a folder inside this one, in order, by their paths inside this one. -/
def tableFiles (f : SchemaFolder) (inside : String) : Except Fault (List (FilePath × FileEntry)) :=
  let way := FilePath.ofText f.place
  if !f.tree.contains (way ++ [inside]) then
    .error (.schema (.missingDirectory inside (f.titleOf [inside])))
  else
    match f.patterns? inside with
    | none => .error .pattern
    | some patterns =>
      .ok ((PathPattern.select patterns f.tree).map fun (p, e) => (p.drop way.length, e))

/-- Reads a table file, in the format that its ending says. -/
def readTable (p : FilePath) (e : FileEntry) : Except Fault TableFile :=
  match FileTree.readText e with
  | .error fault => .error (.file fault)
  | .ok text =>
    if (p.getLast?.bind FilePath.ending?) = some "toml" then
      match Toml.ofText? text with
      | none => .error (.toml none)
      | some members => (TableFile.ofToml members).mapError fun fault => .toml (some fault)
    else (TableFile.ofYaml text).mapError .yaml

/-- Loads one file: the table is made and then added to the schema. What is wrong with the table
is reported with its file, what is wrong with the schema is not. -/
def loadFile {T : Type} (f : SchemaFolder) (make : TableFile → Except SchemaFault T)
    (add : Schema → T → Except SchemaFault Schema) (loaded : LoadedSchema)
    (file : FilePath × FileEntry) : Except Fault LoadedSchema := do
  let (p, e) := file
  let tableFile ← readTable p e
  let table ← (make tableFile).mapError fun fault => .schema (.inFile (f.titleOf p) fault)
  let schema ← (add loaded.schema table).mapError .schema
  return ⟨loaded.files ++ [p], schema⟩

/-- Loads the schema of a folder. -/
def load (f : SchemaFolder) : Except Fault LoadedSchema := do
  let dimensions ← (← f.tableFiles "dimension").foldlM
    (f.loadFile TableFile.toDimension Schema.addDimension) ⟨[], .empty⟩
  (← f.tableFiles "data").foldlM (f.loadFile TableFile.toFact Schema.addFact) dimensions

end SchemaFolder

end StarPlan
