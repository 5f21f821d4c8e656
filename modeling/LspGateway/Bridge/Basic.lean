import LspGateway.Agenda
import LspGateway.Bridge.Outbound
import LspGateway.Engine.Interface
import LspGateway.Gate
import LspGateway.Hub.Basic
import LspGateway.Supervisor.Basic

/-!
# The bridge between engine and client

The bridge holds the engine, subscribes to its events and forwards each as a
notification. Every forwarding handler stands behind a gate, and every
subscription is recorded as soon as it is made, so that the teardown can undo
all of them. The teardown happens once: gates are closed and subscriptions
removed before the engine is disposed of, and nothing the engine publishes from
then on reaches the client.

Others may subscribe to the same engine; their handlers may emit, subscribe,
unsubscribe, or tear the bridge down in the middle of an emission.
-/

namespace LspGateway

namespace Bridge

/-- What a foreign handler does. -/
inductive Act where
  /-- Publishes an event. -/
  | emit (event : Event)
  /-- Subscribes a further handler. -/
  | subscribe (kind : EventKind) (reaction : List Act)
  /-- Removes a subscription. -/
  | unsubscribe (id : Nat)
  /-- Tears the bridge down. -/
  | tearDown

/-- A handler at the hub. -/
inductive Handler where
  /-- Forwards to the client, behind the gate of the number. -/
  | forward (gate : Nat)
  /-- Does something else. -/
  | react (acts : List Act)

/-- A recorded subscription. -/
structure Record where
  /-- Its number at the hub. -/
  id : Nat
  /-- The kind of events. -/
  kind : EventKind
  /-- The number of its gate. -/
  gate : Nat
  deriving DecidableEq, Repr

end Bridge

/-- The bridge, over an engine with states of a type. -/
structure Bridge (state : Type) where
  /-- The engine. -/
  engine : state
  /-- The subscriptions to its events. -/
  hub : Hub Bridge.Handler
  /-- The gates of the forwarding handlers, by number. -/
  gates : List Gate
  /-- Whether the engine was given away. -/
  released : Bool
  /-- Whether the teardown has begun. -/
  disposed : Bool
  /-- The recorded subscriptions, until the teardown. -/
  recorded : List Bridge.Record
  /-- The supervisors ever started, by number. -/
  supervisors : List Supervisor
  /-- The supervisor in charge, until the teardown. -/
  attached : Option Nat
  /-- The queue of outgoing messages. -/
  outbound : Outbound
  /-- Everything reported so far. -/
  journal : List Log.Entry

namespace Bridge

variable {state pending : Type}

/-- A bridge to an engine, without any subscription. -/
def ofEngine (engine : state) : Bridge state :=
  { engine := engine
    hub := .empty
    gates := []
    released := false
    disposed := false
    recorded := []
    supervisors := []
    attached := none
    outbound := .fresh
    journal := [] }

/-- The bridge as it is shown to people. -/
def display (bridge : Bridge state) : String :=
  let released := if bridge.released then "true" else "false"
  s!"EngineAdapter \x7b released: {released} \x7d"

/-- Reports something. -/
def report (bridge : Bridge state) (entries : List Log.Entry) : Bridge state :=
  { bridge with journal := bridge.journal ++ entries }

/-- Queues a message; tells whether it was accepted. -/
def send (bridge : Bridge state) (message : Outgoing) : Bool × Bridge state :=
  let (accepted, outbound, entries) := bridge.outbound.send message
  (accepted, { bridge with outbound := outbound }.report entries)

/-- The notification that an event becomes. -/
def notificationOf (event : Event) : Outgoing :=
  .notification event.kind.method (some event.params)

/-- Whether the gate of a number is open. -/
def gateOpen (bridge : Bridge state) (gate : Nat) : Bool :=
  (bridge.gates[gate]?.map Gate.isOpen).getD false

/-- The entry for an event that a closed gate has stopped. -/
def stoppedEntry (event : Event) : Log.Entry :=
  ⟨.trace, .adapter, "gate closed; dropping event", [("kind", .shown event.kind.name)]⟩

/-- Forwards an event, if the gate is open. -/
def forward (bridge : Bridge state) (gate : Nat) (event : Event) : Bridge state :=
  if bridge.gateOpen gate then (bridge.send (notificationOf event)).2
  else bridge.report [stoppedEntry event]

/-! ## Subscriptions -/

/-- Subscribes a forwarding handler with a gate of its own. -/
def subscribe (bridge : Bridge state) (kind : EventKind) : Record × Bridge state :=
  let gate := bridge.gates.length
  let (id, hub) := bridge.hub.subscribe kind (.forward gate)
  (⟨id, kind, gate⟩,
    { bridge with hub := hub, gates := bridge.gates ++ [Gate.fresh] }.report
      [⟨.debug, .adapter, "subscribed to engine events",
        [("kind", .shown kind.name), ("subscription", .count id)]⟩])

/-- Undoes a subscription: closes its gate and, if the engine can still be
reached, removes it from the hub. -/
def unsubscribe (bridge : Bridge state) (reachable : Bool) (record : Record) : Bridge state :=
  let removed := reachable && bridge.hub.holds record.id
  let hub := if reachable then (bridge.hub.unsubscribe record.id).2 else bridge.hub
  { bridge with hub := hub, gates := bridge.gates.modify record.gate Gate.close }.report
    [⟨.debug, .adapter, "unsubscribed from engine events",
      [("kind", .shown record.kind.name), ("subscription", .count record.id),
        ("removed", .flag removed)]⟩]

/-- Records a subscription; after the teardown it is undone at once instead. Tells
whether it was recorded. -/
def record (bridge : Bridge state) (record : Record) : Bool × Bridge state :=
  if bridge.disposed then (false, bridge.unsubscribe (!bridge.released) record)
  else (true, { bridge with recorded := bridge.recorded ++ [record] })

/-- Subscribes to every kind of event, as long as the engine is there; yields how
many subscriptions stay. -/
def connect (bridge : Bridge state) : Nat × Bridge state :=
  if bridge.released then (0, bridge)
  else EventKind.all.foldl (fun (live, bridge) kind =>
    let (subscription, bridge) := bridge.subscribe kind
    let (kept, bridge) := bridge.record subscription
    (live + kept.toNat, bridge)) (0, bridge)

/-- Subscribes to every kind of event, the subscriptions being recorded where the
teardown is over and the engine out of reach: every gate is closed at once, but
the hub keeps the subscription. -/
def connectInVain (bridge : Bridge state) : Bridge state :=
  if bridge.released then bridge
  else EventKind.all.foldl (fun bridge kind =>
    let (subscription, bridge) := bridge.subscribe kind
    bridge.unsubscribe false subscription) bridge

/-! ## Supervision -/

/-- Starts a supervisor; yields its number. -/
def spawnSupervisor (bridge : Bridge state) (pid interval now : Nat) : Nat × Bridge state :=
  (bridge.supervisors.length,
    { bridge with supervisors := bridge.supervisors ++ [Supervisor.start pid interval now] }.report
      [Supervisor.startEntry pid interval])

/-- Stops the supervisor of a number. -/
def stopSupervisor (bridge : Bridge state) (number : Nat) : Bridge state :=
  { bridge with supervisors := bridge.supervisors.modify number Supervisor.stop }

/-- Stops the supervisor in charge, if there is one. -/
def stopAttached (bridge : Bridge state) : Bridge state :=
  match bridge.attached with
  | some number => bridge.stopSupervisor number
  | none => bridge

/-- Puts a supervisor in charge in place of an earlier one; after the teardown it
is stopped instead. Tells whether it is in charge. -/
def attachSupervisor (bridge : Bridge state) (number : Nat) : Bool × Bridge state :=
  if bridge.disposed then (false, bridge.stopSupervisor number)
  else (true, { bridge.stopAttached with attached := some number })

/-! ## Teardown and emissions -/

/-- What is still to be done. -/
inductive Task where
  /-- To tell a handler of an event. -/
  | deliver (handler : Handler) (event : Event)
  /-- To do what a foreign handler does. -/
  | perform (act : Act)
  /-- To report that the teardown is over. -/
  | conclude (subscriptions : Nat)

/-- The tasks that an event leads to. -/
def deliveries (bridge : Bridge state) (event : Event) : List Task :=
  (bridge.hub.listeners event.kind).map fun handler => .deliver handler event

/-- Disposes of the engine; the tasks are the events that it publishes meanwhile. -/
def disposeEngine (m : Engine state pending) (bridge : Bridge state) : Bridge state × List Task :=
  let (engine, events) := m.dispose bridge.engine
  ({ bridge with engine := engine }, events.map fun event => .perform (.emit event))

/-- Gives the engine away, if it is still held, and disposes of it. -/
def release (m : Engine state pending) (bridge : Bridge state) : Bridge state × List Task :=
  if bridge.released then (bridge, [])
  else disposeEngine m { bridge with released := true }

/-- The teardown: everything recorded is undone, then the engine is disposed of.
Only the first call does anything. -/
def tearDown (m : Engine state pending) (bridge : Bridge state) : Bridge state × List Task :=
  if bridge.disposed then
    (bridge.report [⟨.debug, .disposal, "teardown already performed", []⟩], [])
  else
    let undone := bridge.recorded.foldl (fun bridge record =>
      bridge.unsubscribe (!bridge.released) record)
        { bridge with disposed := true, recorded := [], attached := none }
    let stopped := match bridge.attached with
      | some number => undone.stopSupervisor number
      | none => undone
    let (bridge', tasks) := release m stopped
    (bridge', tasks ++ [.conclude bridge.recorded.length])

/-- Does what a foreign handler does. -/
def perform (m : Engine state pending) (bridge : Bridge state) : Act → Bridge state × List Task
  | .emit event => (bridge, bridge.deliveries event)
  | .subscribe kind reaction =>
    ({ bridge with hub := (bridge.hub.subscribe kind (.react reaction)).2 }, [])
  | .unsubscribe id => ({ bridge with hub := (bridge.hub.unsubscribe id).2 }, [])
  | .tearDown => tearDown m bridge

/-- Does one task. -/
def work (m : Engine state pending) (task : Task) (bridge : Bridge state) :
    Bridge state × List Task :=
  match task with
  | .deliver (.forward gate) event => (bridge.forward gate event, [])
  | .deliver (.react acts) _ => (bridge, acts.map .perform)
  | .perform act => bridge.perform m act
  | .conclude subscriptions =>
    (bridge.report [⟨.info, .disposal, "session resources disposed",
      [("subscriptions", .count subscriptions)]⟩], [])

/-- Works off an agenda as far as patience goes. -/
def settle (m : Engine state pending) (bridge : Bridge state) (agenda : List Task) :
    Bridge state × List Task :=
  Agenda.run (work m) Agenda.patience agenda bridge

/-- Publishes an event; yields how many handlers were told. -/
def emit (m : Engine state pending) (bridge : Bridge state) (event : Event) :
    Nat × Bridge state × List Task :=
  (bridge.hub.count event.kind, bridge.settle m (bridge.deliveries event))

/-- Tears the bridge down; tells whether this call did it. -/
def runOnce (m : Engine state pending) (bridge : Bridge state) :
    Bool × Bridge state × List Task :=
  (!bridge.disposed, bridge.settle m [.perform .tearDown])

/-- After the teardown the bridge counts as torn down. -/
theorem disposed_tearDown (m : Engine state pending) (bridge : Bridge state)
    (h : bridge.disposed = false) : (tearDown m bridge).1.disposed = true := by
  have undo (records : List Record) (b : Bridge state) (hb : b.disposed = true) :
      (records.foldl (fun bridge record => bridge.unsubscribe (!bridge.released) record)
        b).disposed = true := by
    induction records generalizing b with
    | nil => exact hb
    | cons record rest ih => exact ih _ (by simpa [unsubscribe, report] using hb)
  simp only [tearDown, h, Bool.false_eq_true, if_false]
  have := undo bridge.recorded
    { bridge with disposed := true, recorded := [], attached := none } rfl
  split <;> simp only [release] <;> split <;> simp [disposeEngine, stopSupervisor, this]

end Bridge

end LspGateway
