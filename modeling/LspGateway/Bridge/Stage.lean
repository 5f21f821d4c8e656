import LspGateway.Bridge.Supervision
import LspGateway.Dispatch.Error

/-!
# A bridge under a clock

The bridge by itself, with a clock, a world in which processes live or not, and
somebody who takes the outgoing messages. After every command all supervisors
that have something to do take their turns.
-/

namespace LspGateway.Bridge

/-- A bridge and its surroundings. -/
structure Stage (state : Type) where
  /-- The bridge. -/
  bridge : Bridge state
  /-- The time in milliseconds. -/
  now : Nat
  /-- What a process is found to be. -/
  probe : Nat → Except Supervisor.ProbeError Bool
  /-- The processes asked for, the last one first. -/
  probed : List Nat
  /-- The processes found dead, the last one first. -/
  exited : List Nat

/-- What can be done with a bridge. -/
inductive Stage.Command where
  /-- To connect it. -/
  | connect
  /-- To connect it on behalf of a second bridge that is torn down already. -/
  | connectInVain
  /-- To subscribe a handler that tears it down. -/
  | tearDownOn (kind : EventKind)
  /-- To publish an event. -/
  | emit (event : Event)
  /-- To queue a message. -/
  | send (message : Outgoing)
  /-- To queue a notification whose parameters cannot be written. -/
  | sendUnwritable (method reason : String)
  /-- To close the queue of outgoing messages. -/
  | closeOutbound
  /-- To take no more messages. -/
  | dropReceiver
  /-- To tear it down. -/
  | tearDown
  /-- To ask for the engine. -/
  | engine
  /-- To start a supervisor and put it in charge. -/
  | supervise (pid interval : Nat)
  /-- To say what processes are found to be from now on. -/
  | probe (probe : Nat → Except Supervisor.ProbeError Bool)
  /-- To let time pass. -/
  | advance (time : Nat)

/-- What a command is answered. -/
inductive Stage.Answer where
  /-- A number. -/
  | count (value : Nat)
  /-- Whether it took effect. -/
  | effect (took : Bool)
  /-- The engine is there. -/
  | present
  /-- It was refused. -/
  | refused (error : Dispatch.Error)
  /-- Nothing. -/
  | silence

namespace Stage

variable {state pending : Type}

/-- A bridge that nothing was done with. -/
def ofEngine (engine : state) (probe : Nat → Except Supervisor.ProbeError Bool) : Stage state :=
  ⟨.ofEngine engine, 0, probe, [], []⟩

/-- Lets the supervisor of a number have a turn. -/
def turn (stage : Stage state) (number : Nat) : Stage state :=
  let (turn, bridge) := stage.bridge.turnSupervisor number false stage.now stage.probe
  { stage with
    bridge := bridge
    probed := turn.probed.toList ++ stage.probed
    exited := (if turn.exited then turn.probed.toList else []) ++ stage.exited }

/-- Lets every supervisor have a turn. -/
def rest (stage : Stage state) : Stage state :=
  (List.range stage.bridge.supervisors.length).foldl turn stage

/-- Moves the clock to a moment, stopping wherever a supervisor is due; the first
argument bounds how often. -/
def passTime : Nat → Nat → Stage state → Stage state
  | 0, target, stage => { stage with now := target }
  | fuel + 1, target, stage =>
    match stage.bridge.nextDue? target with
    | none => { stage with now := target }
    | some due => passTime fuel target { stage with now := max stage.now due }.rest

/-- Carries out a command, without the turns that follow. Nothing comes of
emissions that never end. -/
def apply (m : Engine state pending) (stage : Stage state) :
    Command → Option (Answer × Stage state)
  | .connect =>
    let (live, bridge) := stage.bridge.connect
    some (.count live, { stage with bridge := bridge })
  | .connectInVain =>
    let (bridge, events) := disposeEngine m stage.bridge
    match bridge.settle m (events ++ [.conclude 0]) with
    | (bridge, []) => some (.count 0, { stage with bridge := bridge.connectInVain })
    | (_, _ :: _) => none
  | .tearDownOn kind =>
    let (id, hub) := stage.bridge.hub.subscribe kind (.react [.tearDown])
    some (.count id, { stage with bridge := { stage.bridge with hub := hub } })
  | .emit event =>
    match stage.bridge.emit m event with
    | (told, bridge, []) => some (.count told, { stage with bridge := bridge })
    | (_, _, _ :: _) => none
  | .send message =>
    let (accepted, bridge) := stage.bridge.send message
    some (.effect accepted, { stage with bridge := bridge })
  | .sendUnwritable method reason =>
    some (.effect false,
      { stage with bridge := stage.bridge.report [Outbound.unwritableEntry method reason] })
  | .closeOutbound =>
    let (outbound, entries) := stage.bridge.outbound.close
    some (.silence,
      { stage with bridge := { stage.bridge with outbound := outbound }.report entries })
  | .dropReceiver =>
    some (.effect stage.bridge.outbound.hasReceiver,
      { stage with
        bridge := { stage.bridge with outbound := stage.bridge.outbound.dropReceiver } })
  | .tearDown =>
    match stage.bridge.runOnce m with
    | (did, bridge, []) => some (.effect did, { stage with bridge := bridge })
    | (_, _, _ :: _) => none
  | .engine =>
    some (if stage.bridge.released then .refused .engineReleased else .present, stage)
  | .supervise pid interval =>
    let (number, bridge) := stage.bridge.spawnSupervisor pid interval stage.now
    let (kept, bridge) := bridge.attachSupervisor number
    some (.effect kept, { stage with bridge := bridge })
  | .probe probe => some (.silence, { stage with probe := probe })
  | .advance time =>
    let target := stage.now + time
    some (.silence, passTime (stage.bridge.turnBound target) target stage)

/-- Carries out a command and lets everything come to rest. -/
def run (m : Engine state pending) (stage : Stage state) (command : Command) :
    Option (Answer × Stage state) :=
  (stage.apply m command).map fun (answer, stage) => (answer, stage.rest)

end Stage

end LspGateway.Bridge
