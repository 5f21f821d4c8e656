/-!
# Phases of a session

A session passes through its phases in one direction, except that a handshake
that fails takes it back to the start.
-/

namespace LspGateway

/-- How far a session has come. -/
inductive Phase where
  /-- No handshake has begun. -/
  | uninitialized
  /-- The handshake was opened by the client and not yet confirmed. -/
  | initializing
  /-- Requests and document notifications reach the engine. -/
  | initialized
  /-- The client asked for the shutdown; only the exit is left. -/
  | shuttingDown
  /-- The session was torn down. -/
  | exited
  deriving DecidableEq, Repr

/-- The name of a phase in messages. -/
def Phase.label : Phase → String
  | .uninitialized => "uninitialized"
  | .initializing => "initializing"
  | .initialized => "initialized"
  | .shuttingDown => "shutting_down"
  | .exited => "exited"

/-- A phase as it is shown to people. -/
def Phase.display : Phase → String
  | .uninitialized => "Uninitialized"
  | .initializing => "Initializing"
  | .initialized => "Initialized"
  | .shuttingDown => "ShuttingDown"
  | .exited => "Exited"

/-- Why a session ended. -/
inductive Ending where
  /-- The client sent the exit notification. -/
  | exit
  /-- The supervised client process is gone. -/
  | clientGone
  /-- The client closed the transport. -/
  | transportClosed
  /-- Reading or writing the transport failed. -/
  | transportFailed
  deriving DecidableEq, Repr

/-- The name of an ending in messages. -/
def Ending.label : Ending → String
  | .exit => "exit"
  | .clientGone => "client_process_exited"
  | .transportClosed => "transport_closed"
  | .transportFailed => "transport_error"

/-- All phases, in the order in which a session passes through them. -/
def Phase.all : List Phase := [.uninitialized, .initializing, .initialized, .shuttingDown, .exited]

/-- The phase of a label. -/
def Phase.ofLabel? (label : String) : Option Phase :=
  Phase.all.find? fun phase => phase.label == label

/-- All endings. -/
def Ending.all : List Ending := [.exit, .clientGone, .transportClosed, .transportFailed]

/-- The ending of a label. -/
def Ending.ofLabel? (label : String) : Option Ending :=
  Ending.all.find? fun ending => ending.label == label

/-- Phases are told apart by their labels. -/
theorem Phase.label_injective {a b : Phase} (h : a.label = b.label) : a = b := by
  cases a <;> cases b <;> first | rfl | (exact absurd h (by decide))

end LspGateway
