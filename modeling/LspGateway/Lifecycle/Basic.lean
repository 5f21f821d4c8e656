import LspGateway.Dispatch.Error
import LspGateway.Log.Entry

/-!
# Lifecycle of a session

The lifecycle records the phase, whether the client asked for the shutdown, and
how the session ended. A phase changes when the message that changes it is
received, before the engine is called, so later messages see the new phase.
Operations that are refused leave the record as it was.
-/

namespace LspGateway

/-- Where a session stands. -/
structure Lifecycle where
  /-- The phase. -/
  phase : Phase
  /-- Whether a shutdown was ever accepted. -/
  shutdownRequested : Bool
  /-- How the session ended, once it has. -/
  ending : Option Ending
  deriving DecidableEq, Repr

namespace Lifecycle

/-- The lifecycle of a session that has seen no message. -/
def fresh : Lifecycle := ⟨.uninitialized, false, none⟩

/-- Accepts the opening of the handshake. -/
def beginHandshake (lifecycle : Lifecycle) : Except Dispatch.Error Lifecycle :=
  match lifecycle.phase with
  | .uninitialized => .ok { lifecycle with phase := .initializing }
  | .exited => .error (.outOfPhase "initialize" .exited)
  | _ => .error .alreadyInitialized

/-- Takes the handshake back after it failed. -/
def abortHandshake (lifecycle : Lifecycle) : Lifecycle :=
  match lifecycle.phase with
  | .initializing => { lifecycle with phase := .uninitialized }
  | _ => lifecycle

/-- Accepts the confirmation of the handshake, which must have been opened. -/
def completeHandshake? (lifecycle : Lifecycle) : Option Lifecycle :=
  match lifecycle.phase with
  | .initializing => some { lifecycle with phase := .initialized }
  | _ => none

/-- Accepts the request for the shutdown. -/
def beginShutdown (lifecycle : Lifecycle) : Except Dispatch.Error Lifecycle :=
  match lifecycle.phase with
  | .initialized => .ok { lifecycle with phase := .shuttingDown, shutdownRequested := true }
  | .uninitialized | .initializing => .error (.notInitialized "shutdown")
  | phase => .error (.outOfPhase "shutdown" phase)

/-- Checks whether a request may reach the engine. -/
def admitRequest (lifecycle : Lifecycle) (method : String) : Except Dispatch.Error Unit :=
  match lifecycle.phase with
  | .initialized => .ok ()
  | .uninitialized | .initializing => .error (.notInitialized method)
  | phase => .error (.outOfPhase method phase)

/-- Whether document notifications may reach the engine. -/
def admitsNotifications (lifecycle : Lifecycle) : Bool :=
  lifecycle.phase == .initialized

/-- Ends the session, unless it has ended. -/
def terminate? (lifecycle : Lifecycle) (ending : Ending) : Option Lifecycle :=
  match lifecycle.phase with
  | .exited => none
  | _ => some { lifecycle with phase := .exited, ending := some ending }

/-- The entries for the step from one record to the next: one if the phase
changed. -/
def journal (before after : Lifecycle) : List Log.Entry :=
  if before.phase = after.phase then []
  else [⟨.debug, .lifecycle, "lifecycle transition",
    [("from", .shown before.phase.label), ("to", .shown after.phase.label)]⟩]

/-! ## Runs -/

/-- What can be asked of a lifecycle. -/
inductive Command where
  /-- To open the handshake. -/
  | beginHandshake
  /-- To take the handshake back. -/
  | abortHandshake
  /-- To confirm the handshake. -/
  | completeHandshake
  /-- To begin the shutdown. -/
  | beginShutdown
  /-- To admit a request. -/
  | admitRequest (method : String)
  /-- To end the session. -/
  | terminate (ending : Ending)
  deriving DecidableEq, Repr

/-- What a command is answered. -/
inductive Answer where
  /-- It was accepted. -/
  | accepted
  /-- It was refused with an error. -/
  | refused (error : Dispatch.Error)
  /-- Whether it took effect. -/
  | effect (took : Bool)
  /-- Nothing. -/
  | silence
  deriving DecidableEq, Repr

/-- The answer and the record after an attempt that may be refused. -/
def attempt (lifecycle : Lifecycle) : Except Dispatch.Error Lifecycle → Answer × Lifecycle
  | .ok next => (.accepted, next)
  | .error error => (.refused error, lifecycle)

/-- The answer and the record after an attempt that may come to nothing. -/
def trial (lifecycle : Lifecycle) : Option Lifecycle → Answer × Lifecycle
  | some next => (.effect true, next)
  | none => (.effect false, lifecycle)

/-- Carries out a command. -/
def run (lifecycle : Lifecycle) : Command → Answer × Lifecycle
  | .beginHandshake => lifecycle.attempt lifecycle.beginHandshake
  | .abortHandshake => (.silence, lifecycle.abortHandshake)
  | .completeHandshake => lifecycle.trial lifecycle.completeHandshake?
  | .beginShutdown => lifecycle.attempt lifecycle.beginShutdown
  | .admitRequest method =>
    lifecycle.attempt ((lifecycle.admitRequest method).map fun () => lifecycle)
  | .terminate ending => lifecycle.trial (lifecycle.terminate? ending)

end Lifecycle

end LspGateway
