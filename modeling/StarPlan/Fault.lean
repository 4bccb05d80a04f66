import StarPlan.Config
import StarPlan.Files.Tree
import StarPlan.Json.Reading
import StarPlan.Yaml.Reading

/-!
# Faults

Everything that can go wrong between a text and a plan, with the wording shown to users. The
first words of a message say which part refused; faults of documents speak for themselves. Of a
document that is not well formed no more is said than that.
-/

namespace StarPlan

/-- Why something was refused. -/
inductive Fault where
  | file (fault : FileFault)
  /-- A TOML document, and what is wrong with its content if it is well formed. -/
  | toml (fault : Option ContentFault)
  | yaml (fault : Yaml.Fault)
  | json (fault : Json.Fault)
  | schema (fault : SchemaFault)
  | request (fault : RequestFault)
  | config (fault : ConfigFault)
  /-- A folder's name that is no pattern of paths. -/
  | pattern
deriving DecidableEq, Repr

/-- The wording of a fault in the content of a JSON document. -/
def Json.Fault.message? : Json.Fault → Option String
  | .content fault => some fault.message
  | .broken _ => none

/-- The wording of a fault, where there is one. -/
def Fault.message? : Fault → Option String
  | .file fault => some ("io error: " ++ fault.message)
  | .toml fault => fault.map ContentFault.message
  | .yaml fault => fault.message?
  | .json fault => fault.message?
  | .schema fault => some fault.report
  | .request fault => some fault.report
  | .config fault => some ("config error: " ++ fault.message)
  | .pattern => none

end StarPlan
