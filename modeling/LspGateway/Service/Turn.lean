import LspGateway.Service.Basic

/-!
# Turns of the jobs of a service

What each job does when its turn comes, until it has nothing to do any more.
-/

namespace LspGateway.Service

variable {state pending : Type}

/-! ## Reading and handling messages -/

/-- The entry for the beginning of a service. -/
def startedEntry : Log.Entry := ⟨.info, .session, "session started", []⟩

/-- The entry for the end of a service. -/
def finishedEntry (outcome : Session.Outcome) : Log.Entry :=
  ⟨.info, .session, "session finished",
    [("reason", .shown outcome.ending.label), ("clean", .flag outcome.clean)]⟩

/-- Ends the service, if all that was to be written is written. -/
def finish (service : Service state pending) : Service state pending :=
  if service.writing == .finished then
    let outcome := service.session.outcome
    { service with
      session := service.session.report [finishedEntry outcome]
      phase := .finished outcome }
  else service

/-- Reads no more. What the engine was still at is cut off. -/
def close (m : Engine state pending) (service : Service state pending) :
    Service state pending :=
  let service := service.follow
    ({ service.session with turn := none }.terminate m .transportClosed)
  { service with phase := .closing }.finish

/-- Takes up what became of a message: another one may be handled, unless the
engine is still at this one. Tells whether to go on. -/
def settleMessage (m : Engine state pending) (service : Service state pending)
    (result : Session.Flow × Session state pending) : Bool × Service state pending :=
  let followed := service.follow result.2
  match result.1 with
  | .stop => (false, followed.close m)
  | .on => (followed.session.turn.isNone, followed.listen .serving)

/-- Handles the next message, if there is one. Tells whether to go on. -/
def readMessage (m : Engine state pending) (service : Service state pending) :
    Bool × Service state pending :=
  if service.session.isCancelled then (false, service.close m)
  else
    let (reading, input) := service.input.read service.session.config.frameLimit
    let service := { service with input := input }
    match reading with
    | .starved => (false, service)
    | .frame payload _ =>
      service.settleMessage m (service.session.handleFrame m service.world payload)
    | .finished => (false, (service.follow (service.session.inputEnded m)).close m)
    | .fault fault _ => (false, (service.follow (service.session.inputFailed m fault)).close m)

/-- Handles messages one after the other; the first argument bounds how many. -/
def readMessages (m : Engine state pending) : Nat → Service state pending → Service state pending
  | 0, service => service
  | fuel + 1, service =>
    match service.readMessage m with
    | (true, service) => readMessages m fuel service
    | (false, service) => service

/-- Begins the service. -/
def begin (service : Service state pending) : Service state pending :=
  { service with
    session := service.session.report [startedEntry]
    phase := .reading
    writing := .running }.wake .writing |>.listen .serving

/-- Goes on with the message that the engine is at. Tells whether to go on. -/
def resumeMessage (m : Engine state pending) (service : Service state pending) :
    Bool × Service state pending :=
  if service.session.turn.isNone then (true, service)
  else if service.session.isCancelled then (false, service.close m)
  else
    let result := service.session.resumeTurn m
    if result.1 == .on && result.2.turn.isSome then (false, service.follow result.2)
    else service.settleMessage m result

/-- The turn of the one who reads. -/
def turnServing (m : Engine state pending) (service : Service state pending) :
    Service state pending :=
  match service.phase with
  | .unstarted => let service := service.begin; readMessages m service.input.size service
  | .reading =>
    match service.resumeMessage m with
    | (true, service) => readMessages m service.input.size service
    | (false, service) => service
  | .closing => service.finish
  | .finished _ | .abandoned => service

/-! ## Writing -/

/-- Writes messages up to the first that cannot be written. -/
def writeMessages (sink : Sink) : List Outgoing → Sink × Except Frame.Fault Unit
  | [] => (sink, .ok ())
  | message :: messages =>
    match Frame.write sink message.encode with
    | (sink, .ok ()) => writeMessages sink messages
    | (sink, .error fault) => (sink, .error fault)

/-- The entry for an output that cannot be closed. -/
def unclosedEntry (fault : Frame.Fault) : Log.Entry :=
  ⟨.debug, .session, "failed to close transport writer", [("error", .shown fault.message)]⟩

/-- Writes no more; whoever waits for that is told. -/
def closeWriting (service : Service state pending) : Service state pending :=
  let (sink, closed) := service.sink.shutdown
  let entries := match closed with
    | .ok () => []
    | .error fault => [unclosedEntry fault]
  let session := service.session.report entries
  let outbound := session.bridge.outbound.dropReceiver
  let service :=
    { service with
      session := { session with bridge := { session.bridge with outbound := outbound } }
      sink := sink
      writing := .finished }
  if service.phase == .closing then service.wake .serving else service

/-- The turn of the one who writes. -/
def turnWriting (m : Engine state pending) (service : Service state pending) :
    Service state pending :=
  if service.writing != .running then service
  else
    let (messages, outbound) := service.session.bridge.outbound.take
    let (sink, written) := writeMessages service.sink messages
    let session := { service.session with
      bridge := { service.session.bridge with outbound := outbound } }
    let service := { service with session := session, sink := sink }
    match written with
    | .error fault => (service.follow (session.outputFailed m fault)).closeWriting
    | .ok () => if outbound.isOpen then service else service.closeWriting

/-! ## Requests and supervisors -/

/-- The turn of a request. -/
def turnRequest (m : Engine state pending) (service : Service state pending) (ticket : Nat) :
    Service state pending :=
  service.follow (service.session.runTask m ticket)

/-- The turn of a supervisor; one that goes on is told of a cancellation. -/
def turnSupervising (m : Engine state pending) (service : Service state pending)
    (number : Nat) : Service state pending :=
  let before := service.session
  let service := service.follow (before.turnSupervisor m service.world number)
  let asked := before.probed.length != service.session.probed.length
  let ended := (service.session.bridge.supervisor? number).all (·.finished)
  if !ended && !service.session.isCancelled &&
      (asked || !service.listening.contains (.supervising number)) then
    service.listen (.supervising number)
  else service

/-- The turn of a job. -/
def turn (m : Engine state pending) (service : Service state pending) :
    Job → Service state pending
  | .serving => service.turnServing m
  | .writing => service.turnWriting m
  | .request ticket => service.turnRequest m ticket
  | .supervising number => service.turnSupervising m number

/-- Lets jobs have their turns until none has anything to do; the first argument
bounds how many turns. -/
def settleTurns (m : Engine state pending) : Nat → Service state pending → Service state pending
  | 0, service => service
  | fuel + 1, service =>
    match service.queue with
    | [] => service
    | job :: queue => settleTurns m fuel ({ service with queue := queue }.turn m job)

/-- Lets jobs have their turns until none has anything to do. -/
def settle (m : Engine state pending) (service : Service state pending) :
    Service state pending :=
  service.settleTurns m Agenda.patience

end LspGateway.Service
