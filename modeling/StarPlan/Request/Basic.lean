import StarPlan.Comparison
import StarPlan.Name

/-!
# Requests

A request names the fields to select, the calculations to report and the filters to apply, all
by alias. It is valid when no alias is blank and no filter compares with a blank text; an
invalid one is refused for a blank alias first, in the order select, calculations, filters.
-/

namespace StarPlan

/-- A calculation to report over a field. -/
structure AggregateItem where
  field : Alias
  calculation : Calculation
deriving DecidableEq, Repr

/-- A condition on a field. -/
structure FilterItem where
  field : Alias
  op : Comparison
  /-- The right-hand side, as it is written into the query. -/
  condition : String
deriving DecidableEq, Repr

/-- What a user asks for. -/
structure Request where
  select : List Alias
  aggregate : List AggregateItem
  filter : List FilterItem
deriving DecidableEq, Repr

/-- Why a request is refused. -/
inductive RequestFault where
  | unknownOperator (text : String)
  | blankField
  | blankCondition (field : Alias)
deriving DecidableEq, Repr

/-- The wording of a refused request. -/
def RequestFault.message : RequestFault → String
  | .unknownOperator text => s!"unknown filter operator '{text}'"
  | .blankField => "field name must not be empty"
  | .blankCondition field => s!"filter on {field} has an empty condition"

/-- Reads a comparison; an unknown one is quoted as it was given. -/
def Comparison.ofText (text : String) : Except RequestFault Comparison :=
  match Comparison.ofText? text with
  | some op => .ok op
  | none => .error (.unknownOperator text)

namespace Request

/-- A request for nothing. -/
def empty : Request := ⟨[], [], []⟩

/-- Whether nothing is asked for. -/
def isEmpty (r : Request) : Bool :=
  r.select.isEmpty && r.aggregate.isEmpty && r.filter.isEmpty

/-- The aliases that occur, section by section. -/
def fields (r : Request) : List Alias :=
  r.select ++ r.aggregate.map (·.field) ++ r.filter.map (·.field)

/-- The first reason to refuse a request. -/
def fault? (r : Request) : Option RequestFault :=
  if r.fields.any Text.isBlankText then some .blankField
  else (r.filter.find? fun f => Text.isBlankText f.condition).map fun f => .blankCondition f.field

/-- Accepts a request without a fault. -/
def validate (r : Request) : Except RequestFault Unit :=
  match r.fault? with
  | some fault => .error fault
  | none => .ok ()

end Request

end StarPlan
