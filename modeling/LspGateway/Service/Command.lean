import LspGateway.Service.Turn

/-!
# What happens to a service

Input arrives, the engine publishes something of its own accord or comes to
something, time passes, and the service may be given up. After each of these all
jobs go on until none has anything to do.
-/

namespace LspGateway.Service

variable {state pending : Type}

/-- What happens to a service. -/
inductive Command (state : Type) where
  /-- Input arrives. -/
  | arrive (piece : Piece)
  /-- No more input will arrive. -/
  | endInput
  /-- The engine publishes an event. -/
  | emit (event : Event)
  /-- The engine comes to something; every call that waits for it goes on. -/
  | stir (change : state → state)
  /-- Processes begin or cease to be. -/
  | probe (probe : Nat → Except Supervisor.ProbeError Bool)
  /-- Time passes, in milliseconds. -/
  | advance (time : Nat)
  /-- The service is given up. -/
  | abandon

/-- The supervisors that are due. -/
def dueJobs (service : Service state pending) : List Job :=
  ((List.range service.session.bridge.supervisors.length).filter fun number =>
    (service.session.bridge.supervisor? number).any fun supervisor =>
      !supervisor.finished && supervisor.due ≤ service.world.now).map .supervising

/-- Moves the clock, stopping wherever a supervisor is due; the first argument
bounds how often. -/
def passTime (m : Engine state pending) :
    Nat → Nat → Service state pending → Service state pending
  | 0, target, service => { service with world := { service.world with now := target } }
  | fuel + 1, target, service =>
    match service.session.bridge.nextDue? target with
    | none => { service with world := { service.world with now := target } }
    | some due =>
      let service :=
        { service with world := { service.world with now := max service.world.now due } }
      passTime m fuel target ((service.wakeAll service.dueJobs).settle m)

/-- Publishes an event; yields how many handlers were told. -/
def emit (m : Engine state pending) (service : Service state pending) (event : Event) :
    Nat × Service state pending :=
  let (told, bridge, _) := service.session.bridge.emit m event
  (told, service.follow { service.session with bridge := bridge })

/-- Changes the engine; every call that waits for it goes on. -/
def stir (service : Service state pending) (change : state → state) : Service state pending :=
  let session := service.session
  { service with
    session := { session with
      bridge := { session.bridge with engine := change session.bridge.engine } } }.wakeAll
    service.waiting

/-- Gives the service up, unless it is over. -/
def abandon (m : Engine state pending) (service : Service state pending) :
    Service state pending :=
  match service.phase with
  | .finished _ | .abandoned => service
  | _ =>
    { service.follow ({ service.session with turn := none }.terminate m .transportClosed) with
      phase := .abandoned }

/-- Whether the one who reads waits for input: no message is at the engine, and the session
was not told to stop. -/
def awaitsInput (service : Service state pending) : Bool :=
  service.phase == .reading && service.session.turn.isNone && !service.session.isCancelled

/-- Takes notice of further input; whoever waits for it goes on. -/
def feed (service : Service state pending) (input : Input) : Service state pending :=
  let service := { service with input := input }
  if service.awaitsInput then service.wake .serving else service

/-- Carries a command out, without what follows from it; where an event was
published, yields how many handlers were told. -/
def apply (m : Engine state pending) (service : Service state pending) :
    Command state → Option Nat × Service state pending
  | .arrive piece => (none, service.feed (service.input.arrive piece))
  | .endInput => (none, service.feed service.input.finish)
  | .emit event => let (told, service) := service.emit m event; (some told, service)
  | .stir change => (none, service.stir change)
  | .probe probe => (none, { service with world := { service.world with probe := probe } })
  | .advance time =>
    let service := service.settle m
    let target := service.world.now + time
    (none, passTime m (service.session.bridge.turnBound target) target service)
  | .abandon => (none, service.abandon m)

/-- Carries a command out and lets everything come to rest. -/
def run (m : Engine state pending) (service : Service state pending) (command : Command state) :
    Option Nat × Service state pending :=
  let (told, service) := service.apply m command
  (told, service.settle m)

/-- How the service ended, if it did. -/
def outcome? (service : Service state pending) : Option Session.Outcome :=
  match service.phase with
  | .finished outcome => some outcome
  | _ => none

end LspGateway.Service
