import StarPlan.Fault
import StarPlan.Request.Json

/-!
# Requests as text

Reading a request from JSON text: first the text, then the validity of what it asks for.
-/

namespace StarPlan

/-- Reads a valid request. -/
def Request.ofText (text : String) : Except Fault Request :=
  match Json.readText Request.ofDoc text with
  | .error fault => .error (.json fault)
  | .ok request =>
    match request.validate with
    | .error fault => .error (.request fault)
    | .ok () => .ok request

/-- A request as compact JSON text. -/
def Request.toText (r : Request) : String :=
  r.toJson.render

end StarPlan
