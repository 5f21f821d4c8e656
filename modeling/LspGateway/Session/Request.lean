import LspGateway.Session.Basic

/-!
# Requests for features

An admitted request is registered under its identifier and becomes a task. The
task decodes the parameters, asks the engine, and answers once the engine does;
until then the identifier is taken, and a further request with it goes
unanswered.
-/

namespace LspGateway.Session

variable {state pending : Type}

/-- Takes a request in: it becomes a task, is refused, or is dropped. -/
def spawn (session : Session state pending) (id : RequestId) (feature : Engine.Feature)
    (params : Json) : Session state pending :=
  match session.lifecycle.admitRequest feature.method with
  | .error error => session.reply id feature.method (.error error)
  | .ok () =>
    if session.bridge.released then session.reply id feature.method (.error .engineReleased)
    else match session.registry.register id with
      | .error error =>
        session.report [⟨.warn, .dispatch, "dropping request",
          [("method", .text feature.method), ("error", .shown error.message)]⟩]
      | .ok (handle, registry) =>
        let task : Task pending := ⟨session.nextTicket, id, feature, handle, .spawned params⟩
        { session with
          registry := registry
          tasks := session.tasks ++ [task]
          nextTicket := session.nextTicket + 1 }.report
          [⟨.debug, .dispatch, "dispatching request",
            [("id", .shown id.display), ("method", .text feature.method)]⟩]

/-- The task of a number. -/
def task? (session : Session state pending) (ticket : Nat) : Option (Task pending) :=
  session.tasks.find? fun task => task.ticket == ticket

/-- Whether the request of a task was cancelled. -/
def cancelledTask (session : Session state pending) (task : Task pending) : Bool :=
  session.registry.isCancelled task.handle

/-- Ends a task: its identifier is free again, and the request is answered. -/
def finish (session : Session state pending) (task : Task pending)
    (result : Except Dispatch.Error Json) : Session state pending :=
  { session with
    registry := (session.registry.complete task.id).letGo task.handle
    tasks := session.tasks.filter fun other => other.ticket != task.ticket }.reply
      task.id task.feature.method result

/-- Keeps a task that the engine is at. -/
def park (session : Session state pending) (task : Task pending) (call : pending) :
    Session state pending :=
  { session with
    tasks := session.tasks.map fun other =>
      if other.ticket == task.ticket then { task with stage := .waiting call } else other }

/-- Takes up what the engine came to in a task. -/
def continueTask (m : Engine state pending) (session : Session state pending)
    (task : Task pending) (answer : state × Engine.Turn pending) : Session state pending :=
  let published := publish m
    { session with bridge := { session.bridge with engine := answer.1 } } answer.2.events
  match answer.2.progress with
  | .waiting call => published.park task call
  | .done outcome =>
    (published.report (Dispatch.outcomeEntries task.feature.method outcome)).finish task
      (Dispatch.conclude task.feature.method outcome)

/-- Lets a task go on: at first its parameters are decoded and the engine is
asked, later the engine is asked again. -/
def runTask (m : Engine state pending) (session : Session state pending) (ticket : Nat) :
    Session state pending :=
  match session.task? ticket with
  | none => session
  | some task =>
    let cancelled := some (session.cancelledTask task)
    match task.stage with
    | .spawned params =>
      match Dispatch.decode (.feature task.feature) params with
      | .error error => session.finish task (.error error)
      | .ok call => session.continueTask m task (m.begin call cancelled session.bridge.engine)
    | .waiting call =>
      session.continueTask m task (m.resume call cancelled session.bridge.engine)

end LspGateway.Session
