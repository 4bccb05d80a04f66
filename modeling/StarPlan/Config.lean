import StarPlan.Plan.Resolution
import StarPlan.Sql.Dialect
import StarPlan.Toml.Document

/-!
# Configuration

A configuration is read from TOML; every key has a default, and unknown keys are passed over.
A text that is no configuration is refused as a whole, and so is one that names a dialect that
is not supported.

The configuration in force is the first of several sources that holds a valid one, or else the
built-in default. Sources that are missing, unreadable or refused have no effect at all.
-/

namespace StarPlan

/-- Settings of the planner. -/
structure Config where
  /-- Whether counting an attribute may be answered by counting its dimension's key. -/
  substituteKeys : Bool
  /-- The name of the SQL dialect, as it was written. -/
  dialectName : String
  /-- Where table files are kept. -/
  schemaDir : Option String
deriving DecidableEq, Repr

/-- Why there is no configuration to be had from a source. -/
inductive ConfigFault where
  | unreadable (reason : String)
  | unparsable
  | unsupportedDialect (name : String)
deriving DecidableEq, Repr

/-- The wording of a refused configuration. -/
def ConfigFault.message : ConfigFault → String
  | .unreadable reason => s!"failed to read config file: {reason}"
  | .unparsable => "failed to parse config"
  | .unsupportedDialect name => s!"unsupported dialect '{name}'"

/-- What is found at a place where a configuration may be kept. -/
inductive ConfigSource where
  | missing
  | unreadable (reason : String)
  | text (text : String)
deriving DecidableEq, Repr

/-- What is found at each place where a configuration is looked for, the first place first. -/
structure ConfigPlaces where
  /-- The file that the environment points to, if it points to one. -/
  environment : ConfigSource
  /-- The file in the working directory. -/
  workingDir : ConfigSource
  /-- The file in the user's directory of configurations. -/
  userDir : ConfigSource
deriving DecidableEq, Repr

/-- The sources in the order of their rank. -/
def ConfigPlaces.byRank (p : ConfigPlaces) : List ConfigSource :=
  [p.environment, p.workingDir, p.userDir]

namespace Config

/-- The built-in default. -/
def standard : Config := ⟨true, "postgres", none⟩

/-- The members of a value that is read as a section. The moment in time counts as a section
without members that anyone knows. -/
def members? : Toml.Value → Option (List (String × Toml.Value))
  | .table members => some members
  | .moment _ => some []
  | _ => none

/-- A section as its settings by name: a table, or an array of the settings in order. -/
def settings? (names : List String) : Toml.Value → Option (List (String × Toml.Value))
  | .array items => some (names.zip items)
  | v => members? v

/-- Reads the settings of the planner. -/
def readPlanner (c : Config) (settings : List (String × Toml.Value)) : Option Config :=
  settings.foldlM (fun c (name, v) =>
    match name, v with
    | "service_key_substitution", .boolean b => some { c with substituteKeys := b }
    | "service_key_substitution", _ => none
    | "dialect", .text s => some { c with dialectName := s }
    | "dialect", _ => none
    | _, _ => some c) c

/-- Reads the settings about table files. -/
def readSchema (c : Config) (settings : List (String × Toml.Value)) : Option Config :=
  settings.foldlM (fun c (name, v) =>
    match name, v with
    | "dir", .text s => some { c with schemaDir := some s }
    | "dir", _ => none
    | _, _ => some c) c

/-- Reads the sections of a document. -/
def ofDocument? (document : List (String × Toml.Value)) : Option Config :=
  document.foldlM (fun c (name, v) =>
    match name with
    | "planner" => (settings? ["service_key_substitution", "dialect"] v).bind c.readPlanner
    | "schema" => (settings? ["dir"] v).bind c.readSchema
    | _ => some c) standard

/-- The form of a dialect's name that is compared: no blanks around it, lower case. -/
def plainDialect (c : Config) : String :=
  Text.lower (Text.trim c.dialectName)

/-- The dialect that a configuration names. -/
def dialect (c : Config) : Except ConfigFault Sql.Dialect :=
  if c.plainDialect = "postgres" ∨ c.plainDialect = "postgresql" then .ok Sql.postgres
  else .error (.unsupportedDialect c.plainDialect)

/-- Reads a configuration, which must name a supported dialect. -/
def ofText (text : String) : Except ConfigFault Config :=
  match (Toml.ofText? text).bind ofDocument? with
  | none => .error .unparsable
  | some c =>
    match c.dialect with
    | .ok _ => .ok c
    | .error fault => .error fault

/-- Reads the configuration that a source holds. -/
def ofSource : ConfigSource → Except ConfigFault Config
  | .missing => .error (.unreadable "No such file or directory (os error 2)")
  | .unreadable reason => .error (.unreadable reason)
  | .text text => ofText text

/-- The configuration in force, given the sources in the order of their rank. -/
def firstValid : List ConfigSource → Config
  | [] => standard
  | source :: rest =>
    match ofSource source with
    | .ok c => c
    | .error _ => firstValid rest

/-- The configuration in force, given what is found at the places where one is looked for. -/
def discover (p : ConfigPlaces) : Config :=
  firstValid p.byRank

/-- The options that a configuration asks for. -/
def options (c : Config) : Options := ⟨c.substituteKeys⟩

end Config

end StarPlan
