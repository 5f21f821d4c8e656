import LspGateway.Engine.Error
import LspGateway.Json.Undecodable
import LspGateway.Lifecycle.Phase
import LspGateway.Message.Outgoing

/-!
# Errors of dispatch

Why a message did not lead to a result. Every error has a code of the protocol,
so a failed request is answered without touching the session.
-/

namespace LspGateway.Dispatch

/-- Why handling a message failed. -/
inductive Error where
  /-- No route leads to the method. -/
  | methodNotFound (method : String)
  /-- The method is a notification, but came with an identifier. -/
  | notARequest (method : String)
  /-- The parameters do not fit the method. -/
  | invalidParams (method : String) (source : Json.Undecodable)
  /-- The handshake is not complete. -/
  | notInitialized (method : String)
  /-- The method is not admitted in the phase. -/
  | outOfPhase (method : String) (phase : Phase)
  /-- The handshake was opened a second time. -/
  | alreadyInitialized
  /-- The identifier belongs to a request that is still outstanding. -/
  | duplicateId (id : RequestId)
  /-- The teardown has taken the engine away. -/
  | engineReleased
  /-- The engine call failed. -/
  | engine (method : String) (source : Engine.Error)
  /-- The engine call broke off. -/
  | crashed (method : String)
  /-- The result cannot be written. -/
  | unwritable (source : Json.Undecodable)
  deriving DecidableEq, Repr

namespace Error

/-- What an error goes back to, in words. -/
def source? : Error → Option String
  | .invalidParams _ source | .unwritable source => some source.message
  | .engine _ source => some source.message
  | _ => none

/-- The wording of an error. -/
def message : Error → String
  | .methodNotFound method => "method not found: " ++ method
  | .notARequest method => method ++ " is a notification and cannot be sent as a request"
  | .invalidParams method source => "invalid params for " ++ method ++ ": " ++ source.message
  | .notInitialized method =>
    "server not initialized: " ++ method ++ " requires a completed initialize handshake"
  | .outOfPhase method phase =>
    method ++ " is not allowed while the session is " ++ phase.label
  | .alreadyInitialized => "server already initialized"
  | .duplicateId id => "duplicate request id: " ++ id.display
  | .engineReleased => "engine released; the session is terminating"
  | .engine method source => method ++ " failed: " ++ source.message
  | .crashed method => "internal error while handling " ++ method
  | .unwritable source => "failed to serialise result: " ++ source.message

/-- The code under which the client is told. -/
def code : Error → ErrorCode
  | .methodNotFound _ | .engine _ (.unsupported _) => .methodNotFound
  | .invalidParams _ _ => .invalidParams
  | .notInitialized _ => .serverNotInitialized
  | .notARequest _ | .outOfPhase _ _ | .alreadyInitialized | .duplicateId _ | .engineReleased =>
    .invalidRequest
  | .engine _ .cancelled => .requestCancelled
  | .engine _ (.failed _ _) | .crashed _ | .unwritable _ => .internalError

/-- Whether the error tells that a cancellation took effect. -/
def isCancellation : Error → Bool
  | .engine _ .cancelled => true
  | _ => false

/-- The error as a response carries it. -/
def response (error : Error) : ResponseError :=
  .ofCode error.code error.message

/-- The code for cancelled requests is kept for acknowledged cancellations. -/
theorem code_eq_requestCancelled_iff (error : Error) :
    error.code = .requestCancelled ↔ error.isCancellation = true := by
  rcases error with _ | _ | _ | _ | _ | _ | _ | _ | ⟨_, _ | _ | _⟩ | _ | _ <;>
    simp [code, isCancellation]

end Error

end LspGateway.Dispatch
