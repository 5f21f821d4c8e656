/-!
# Errors of the engine

What an engine may answer instead of a result.
-/

namespace LspGateway.Engine

/-- Why an engine call failed. -/
inductive Error where
  /-- The engine does not serve the method. -/
  | unsupported (method : String)
  /-- The engine stopped because the request was cancelled. -/
  | cancelled
  /-- The engine failed, perhaps because of something else. -/
  | failed (message : String) (cause : Option String)
  deriving DecidableEq, Repr

/-- The wording of an engine error. -/
def Error.message : Error → String
  | .unsupported method => "method not supported by the engine: " ++ method
  | .cancelled => "request cancelled"
  | .failed message _ => message

/-- What the failure goes back to, if the engine says so. -/
def Error.cause? : Error → Option String
  | .failed _ cause => cause
  | _ => none

end LspGateway.Engine
