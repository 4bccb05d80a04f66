import StarPlan.Plan.Basic
import StarPlan.Plan.Lowering

/-!
# Planning on request

The way in for callers: a request is validated first, and one environment variable can switch
the counting of keys off, whatever the options are.
-/

namespace StarPlan

/-- The options under a value of the environment variable that disables the counting of keys;
only the text `1` does. -/
def Options.underSwitch (options : Options) (switch : Option String) : Options :=
  if switch = some "1" then ⟨false⟩ else options

/-- Validates a request and plans it. -/
def Schema.planChecked (schema : Schema) (request : Request) (options : Options)
    (switch : Option String) : Except RequestFault Plan := do
  request.validate
  return schema.plan request (options.underSwitch switch)

/-- The queries of the surviving tables, by table. -/
def Plan.renderAll (p : Plan) (d : Sql.Dialect) : Keyed RenderedQuery :=
  .ofList (p.live.entries.map fun (table, e) => (table, e.render table d))

end StarPlan
