import LspGateway.Service.Input
import LspGateway.Frame.Writer
import LspGateway.Session.Frame

/-!
# Serving a session

Serving takes several jobs that go on by turns: one reads and handles messages,
one writes, every request has its own, and so has every supervisor. A job that
has something to do waits in a queue and is taken up in its order; a job that has
nothing to do is put into the queue by whatever gives it something to do.

This module holds the state of a service and says, for every change of the
session, which jobs it puts into the queue and in which order.
-/

namespace LspGateway

namespace Service

/-- A job that goes on by turns. -/
inductive Job where
  /-- Reading and handling messages. -/
  | serving
  /-- Writing messages. -/
  | writing
  /-- The request with a ticket. -/
  | request (ticket : Nat)
  /-- The supervisor with a number. -/
  | supervising (number : Nat)
  deriving DecidableEq, Repr

/-- Where the service stands. -/
inductive Phase where
  /-- Nothing was done yet. -/
  | unstarted
  /-- Messages are read. -/
  | reading
  /-- The session is over; the last messages are written. -/
  | closing
  /-- It is over. -/
  | finished (outcome : Session.Outcome)
  /-- It was given up. -/
  | abandoned
  deriving DecidableEq, Repr

/-- Where the writing stands. -/
inductive Writing where
  /-- Nobody writes yet. -/
  | absent
  /-- Messages are written. -/
  | running
  /-- Nothing is written any more. -/
  | finished
  deriving DecidableEq, Repr

end Service

/-- A session that is served. -/
structure Service (state pending : Type) where
  /-- The session. -/
  session : Session state pending
  /-- Where the service stands. -/
  phase : Service.Phase
  /-- What comes from the client. -/
  input : Input
  /-- Where the writing stands. -/
  writing : Service.Writing
  /-- What goes to the client. -/
  sink : Sink
  /-- The jobs that have something to do. -/
  queue : List Service.Job
  /-- The jobs that wait for the engine, in the order in which they began to. -/
  waiting : List Service.Job
  /-- The tickets of the requests, in the order from which a cancellation of the session
  takes the last one first and then the others. -/
  cancellable : List Nat
  /-- The jobs that are told of a cancellation of the session, in order. -/
  listening : List Service.Job
  /-- The world. -/
  world : Session.World

namespace Service

variable {state pending : Type}

/-- A service that nothing was done for. -/
def create (engine : state) (config : SessionConfig) (sink : Sink)
    (probe : Nat → Except Supervisor.ProbeError Bool) : Service state pending :=
  { session := .create engine config
    phase := .unstarted
    input := .nothing
    writing := .absent
    sink := sink
    queue := [.serving]
    waiting := []
    cancellable := []
    listening := []
    world := ⟨0, probe⟩ }

/-- Puts a job into the queue, unless it is there. -/
def wake (service : Service state pending) (job : Job) : Service state pending :=
  if service.queue.contains job then service
  else { service with queue := service.queue ++ [job] }

/-- Puts jobs into the queue. -/
def wakeAll (service : Service state pending) (jobs : List Job) : Service state pending :=
  jobs.foldl wake service

/-- Lets a job be told of a cancellation of the session, after all others. -/
def listen (service : Service state pending) (job : Job) : Service state pending :=
  { service with listening := service.listening.filter (· != job) ++ [job] }

/-- Takes a number out of a list; the last one takes its place. -/
def swapOut (numbers : List Nat) (number : Nat) : List Nat :=
  match numbers.getLast? with
  | none => []
  | some last => numbers.dropLast.map (fun other => if other == number then last else other) ++
      (if numbers.dropLast.contains number || last == number then [] else [last])

/-- The order in which a cancellation of the session goes through numbers: the last one,
then the others from the first one on. -/
def lastFirst (numbers : List Nat) : List Nat :=
  numbers.getLast?.toList ++ numbers.dropLast

/-- The tickets of the requests without answer. -/
def tickets (session : Session state pending) : List Nat :=
  session.tasks.map Session.Task.ticket

/-- The jobs that wait for the engine in a session. -/
def held (session : Session state pending) : List Job :=
  (if session.turn.isSome then [.serving] else []) ++ session.tasks.filterMap fun task =>
    match task.stage with
    | .spawned _ => none
    | .waiting _ => some (.request task.ticket)

/-- The tickets of the requests that a change of the session has cancelled. -/
def cancelledNow (before after : Session state pending) : List Nat :=
  (after.tasks.filter fun task =>
    after.cancelledTask task && !before.cancelledTask task).map Session.Task.ticket

/-- The numbers of the supervisors that a change of the session has stopped. -/
def stoppedNow (before after : Session state pending) : List Nat :=
  (List.range before.bridge.supervisors.length).filter fun number =>
    (after.bridge.supervisor? number).any (·.stopped) &&
      !(before.bridge.supervisor? number).any (·.stopped)

/-- Whether there is something to do for the one who writes. -/
def hasOutput (before after : Session state pending) : Bool :=
  !after.bridge.outbound.queued.isEmpty ||
    (before.bridge.outbound.isOpen && !after.bridge.outbound.isOpen)

/-- The jobs that a change of the session gives something to do: new requests and
supervisors; if requests were cancelled, those, the last one first; if all was cancelled,
whoever listens, in order; supervisors told to stop; and the writing. -/
def stirred (service : Service state pending) (before after : Session state pending) :
    List Job :=
  let fresh := (tickets after).filter (before.nextTicket ≤ ·)
  let begun := (List.range after.bridge.supervisors.length).drop before.bridge.supervisors.length
  let cancelled := cancelledNow before after
  fresh.map .request ++ begun.map .supervising ++
    ((lastFirst service.cancellable).filter cancelled.contains).map .request ++
    (if after.isCancelled && !before.isCancelled then service.listening else []) ++
    (stoppedNow before after).map .supervising ++
    (if service.writing == .running && hasOutput before after then [.writing] else [])

/-- Takes up a change of the session: every job that it gives something to do goes
into the queue. -/
def follow (service : Service state pending) (after : Session state pending) :
    Service state pending :=
  let before := service.session
  let left := (tickets before).filter fun ticket => !(tickets after).contains ticket
  let fresh := (tickets after).filter (before.nextTicket ≤ ·)
  { service with
    session := after
    waiting := service.waiting.filter (held after).contains ++
      (held after).filter fun job => !service.waiting.contains job
    cancellable := left.foldl swapOut service.cancellable ++ fresh
    listening := if after.isCancelled then [] else service.listening }.wakeAll
    (service.stirred before after)

/-- A job that is woken is in the queue. -/
theorem mem_queue_wake (service : Service state pending) (job : Job) :
    job ∈ (service.wake job).queue := by
  unfold wake
  split
  · next h => simpa using h
  · simp

end Service

end LspGateway
