import LspGateway.Dispatch.Error
import LspGateway.Dispatch.Table
import LspGateway.Engine.Interface
import LspGateway.Log.Entry

/-!
# Handling routed messages

A routed message becomes an engine call once its parameters have been decoded;
parameters that do not fit never reach the engine. What the engine answers
becomes a result or an error that names the method.
-/

namespace LspGateway.Dispatch

/-- The call that an operation becomes, if the parameters fit. -/
def decode (operation : Engine.Operation) (params : Json) : Except Error Engine.Call :=
  match operation.params.canonical params with
  | .ok canonical => .ok ⟨operation, canonical⟩
  | .error mismatch => .error (.invalidParams operation.method (.mismatch mismatch none))

/-- What the outcome of a call comes to. -/
def conclude (method : String) : Engine.Outcome → Except Error Json
  | .result value => .ok value
  | .failed error => .error (.engine method error)
  | .broke _ => .error (.crashed method)

/-- What is said of a call that broke off without a reason. -/
def unknownReason : String := "unknown panic"

/-- What is reported of the outcome of a call: that it broke off. -/
def outcomeEntries (method : String) : Engine.Outcome → List Log.Entry
  | .broke reason =>
    [⟨.error, .dispatch, "handler panicked",
      [("method", .text method), ("panic", .shown (reason.getD unknownReason))]⟩]
  | _ => []

end LspGateway.Dispatch
