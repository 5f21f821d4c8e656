import LspGateway.Bridge.Supervision
import LspGateway.Config.Basic
import LspGateway.Dispatch.Handler
import LspGateway.Lifecycle.Basic
import LspGateway.Message.Incoming
import LspGateway.Registry.Basic

/-!
# Sessions

A session serves one client. It handles the messages of the client in the order
in which they arrive: notifications and the steps of the session's life are done
one after the other, while requests for features become tasks of their own, in
the registry until they are answered.

This module holds what a session knows and what it does in more than one place:
answering, and ending. However many reasons to end turn up, the first one tears
the session down and the others change nothing.
-/

namespace LspGateway

namespace Session

/-- How far a request has come. -/
inductive Stage (pending : Type) where
  /-- Its parameters have not been looked at. -/
  | spawned (params : Json)
  /-- The engine is at it. -/
  | waiting (call : pending)

/-- A request for a feature that has no answer yet. -/
structure Task (pending : Type) where
  /-- A number of its own. -/
  ticket : Nat
  /-- The identifier that the answer has to carry. -/
  id : RequestId
  /-- What is asked for. -/
  feature : Engine.Feature
  /-- Its handle in the registry. -/
  handle : Nat
  /-- How far it has come. -/
  stage : Stage pending

/-- What is to be done once the engine has answered a message that is handled in
its turn. -/
inductive Duty where
  /-- To answer the opening of the handshake. -/
  | opening (id : RequestId)
  /-- To see the confirmation of the handshake through. -/
  | confirmation
  /-- To answer the request for the shutdown. -/
  | shutdown (id : RequestId)
  /-- To leave. -/
  | exit
  /-- To see a notification through. -/
  | notice (notice : Engine.Notice)

/-- The operation behind a duty. -/
def Duty.operation : Duty → Engine.Operation
  | .opening _ => .opening
  | .confirmation => .confirmation
  | .shutdown _ => .shutdown
  | .exit => .exit
  | .notice n => .notice n

/-- A message that waits for the engine in its turn. -/
structure Turn (pending : Type) where
  /-- What is left to do. -/
  duty : Duty
  /-- What the engine is at. -/
  call : pending

/-- The world around a session: the time, and which processes are alive. -/
structure World where
  /-- The time in milliseconds. -/
  now : Nat
  /-- What a process is found to be. -/
  probe : Nat → Except Supervisor.ProbeError Bool

/-- How a session ended. -/
structure Outcome where
  /-- The reason that came first. -/
  ending : Ending
  /-- Whether the client left as it should: exit after shutdown. -/
  clean : Bool
  deriving DecidableEq, Repr

/-- The exit code of a program that served the session. -/
def Outcome.exitCode (outcome : Outcome) : Nat :=
  if outcome.clean then 0 else 1

end Session

/-- A session with an engine. -/
structure Session (state pending : Type) where
  /-- Its settings. -/
  config : SessionConfig
  /-- Where it stands. -/
  lifecycle : Lifecycle
  /-- The outstanding requests and their cancellation. -/
  registry : Registry
  /-- The engine, its events, and the way to the client. -/
  bridge : Bridge state
  /-- The requests without answer, in the order of their arrival. -/
  tasks : List (Session.Task pending)
  /-- The message that waits for the engine in its turn. -/
  turn : Option (Session.Turn pending)
  /-- The number of the next task. -/
  nextTicket : Nat
  /-- The processes asked for, the last one first. -/
  probed : List Nat

namespace Session

variable {state pending : Type}

/-- A session that has seen no message. -/
def create (engine : state) (config : SessionConfig) : Session state pending :=
  { config := config
    lifecycle := .fresh
    registry := .empty
    bridge := (Bridge.ofEngine engine).connect.2
    tasks := []
    turn := none
    nextTicket := 0
    probed := [] }

/-- Whether the session was told to stop. -/
def isCancelled (session : Session state pending) : Bool :=
  session.registry.sessionCancelled

/-- How the session ended, or would end if the client went away now. -/
def outcome (session : Session state pending) : Outcome :=
  let ending := session.lifecycle.ending.getD .transportClosed
  ⟨ending, ending == .exit && session.lifecycle.shutdownRequested⟩

/-- The session as it is shown to people. -/
def display (session : Session state pending) : String :=
  s!"Session \x7b state: {session.lifecycle.phase.display}, .. \x7d"

/-- Reports something. -/
def report (session : Session state pending) (entries : List Log.Entry) : Session state pending :=
  { session with bridge := session.bridge.report entries }

/-- Changes the lifecycle and reports the change. -/
def pass (session : Session state pending) (next : Lifecycle) : Session state pending :=
  { session with lifecycle := next }.report (session.lifecycle.journal next)

/-- Queues a message to the client. -/
def send (session : Session state pending) (message : Outgoing) : Session state pending :=
  { session with bridge := (session.bridge.send message).2 }

/-- Publishes events, one after the other. -/
def publish (m : Engine state pending) (session : Session state pending) (events : List Event) :
    Session state pending :=
  { session with
    bridge := events.foldl (fun bridge event => (bridge.emit m event).2.1) session.bridge }

/-! ## Answers -/

/-- What is reported of an error that answers a request. -/
def failureEntry (id : RequestId) (method : String) (error : Dispatch.Error) : Log.Entry :=
  if error.isCancellation then
    ⟨.debug, .dispatch, "request cancelled", [("id", .shown id.display), ("method", .text method)]⟩
  else
    ⟨.warn, .dispatch, "request failed",
      [("id", .shown id.display), ("method", .text method), ("error", .shown error.message)]⟩

/-- Answers a request. -/
def reply (session : Session state pending) (id : RequestId) (method : String) :
    Except Dispatch.Error Json → Session state pending
  | .ok value => session.send (.response (some id) (.result value))
  | .error error =>
    (session.report [failureEntry id method error]).send
      (.response (some id) (.error error.response))

/-! ## The end -/

/-- What is reported of the end of a session. -/
def terminatedEntry (ending : Ending) : Log.Entry :=
  ⟨.info, .session, "session terminated", [("reason", .shown ending.label)]⟩

/-- Undoes everything: every request is cancelled, the bridge torn down, and the
way to the client closed. -/
def tearDown (m : Engine state pending) (session : Session state pending) :
    Session state pending :=
  let bridge := (session.bridge.runOnce m).2.1
  let (outbound, entries) := bridge.outbound.close
  { session with
    registry := session.registry.cancelSession
    bridge := { bridge with outbound := outbound }.report entries }

/-- Ends the session, unless it has ended. -/
def terminate (m : Engine state pending) (session : Session state pending) (ending : Ending) :
    Session state pending :=
  match session.lifecycle.terminate? ending with
  | none => session
  | some next => ((session.tearDown m).pass next).report [terminatedEntry ending]

/-- A session that has ended is not changed by further reasons to end. -/
theorem terminate_of_exited (m : Engine state pending) (session : Session state pending)
    (ending : Ending) (h : session.lifecycle.phase = .exited) :
    session.terminate m ending = session := by
  simp [terminate, Lifecycle.terminate?, h]

end Session

end LspGateway
