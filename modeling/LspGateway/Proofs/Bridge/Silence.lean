import LspGateway.Bridge.Basic
import LspGateway.Engine.Bare

/-!
# Silence after the teardown

A bridge may be torn down between two emissions, by a handler in the middle of one, or by a
handler of an emission inside another. An open gate always belongs to a recorded
subscription, so the teardown leaves no gate open, and none is opened later. From then on
nothing that is published reaches the queue, whatever foreign handlers do and however often
the bridge is connected again; only what others send themselves is still accepted.
-/

namespace LspGateway.Bridge

variable {state pending : Type}

/-! ## Whatever may happen -/

/-- A bridge in the middle of things. -/
structure Scene (state : Type) where
  /-- The bridge. -/
  bridge : Bridge state
  /-- What is still to be done, the next thing first: handlers to be told, and acts of
  those that were told. -/
  agenda : List Task

/-- What may happen next. Acts may come up at any moment, so that a foreign handler is free
to do anything whenever it is told of an event, whatever it was told before. -/
inductive Move where
  /-- The next task is done. -/
  | work
  /-- Somebody begins an act, before everything that is still to be done. -/
  | act (act : Act)
  /-- The bridge is connected. -/
  | connect
  /-- The bridge is connected on behalf of a second one that is torn down already. -/
  | connectInVain
  /-- Somebody queues a message that is no event. -/
  | send (message : Outgoing)
  /-- The messages that wait are taken. -/
  | take
  /-- The queue is closed. -/
  | closeOutbound
  /-- Nobody takes messages any more. -/
  | dropReceiver

/-- What a move does to the queue by itself. Events are not among that. -/
def Move.affect : Move → Outbound → Outbound
  | .send message, outbound => (outbound.send message).2.1
  | .take, outbound => outbound.take.2
  | .closeOutbound, outbound => outbound.close.1
  | .dropReceiver, outbound => outbound.dropReceiver
  | .work, outbound | .act _, outbound | .connect, outbound | .connectInVain, outbound => outbound

namespace Scene

/-- A new bridge, with nothing to be done. -/
def start (engine : state) : Scene state :=
  ⟨.ofEngine engine, []⟩

/-- Does the next task. -/
def work (m : Engine state pending) (scene : Scene state) : Scene state :=
  match scene.agenda with
  | [] => scene
  | task :: rest =>
    let (bridge, more) := Bridge.work m task scene.bridge
    ⟨bridge, more ++ rest⟩

/-- What becomes of a scene by a move. -/
def step (m : Engine state pending) (scene : Scene state) : Move → Scene state
  | .work => scene.work m
  | .act act => { scene with agenda := .perform act :: scene.agenda }
  | .connect => { scene with bridge := scene.bridge.connect.2 }
  | .connectInVain => { scene with bridge := scene.bridge.connectInVain }
  | .send message => { scene with bridge := (scene.bridge.send message).2 }
  | .take =>
    { scene with bridge := { scene.bridge with outbound := scene.bridge.outbound.take.2 } }
  | .closeOutbound =>
    { scene with bridge := { scene.bridge with outbound := scene.bridge.outbound.close.1 } }
  | .dropReceiver =>
    { scene with bridge := { scene.bridge with outbound := scene.bridge.outbound.dropReceiver } }

/-- What becomes of a scene by moves, one after the other. -/
def run (m : Engine state pending) (scene : Scene state) (moves : List Move) : Scene state :=
  moves.foldl (step m) scene

/-- Working off an agenda is to do one task after the other. -/
theorem exists_run_work (m : Engine state pending) (fuel : Nat) (scene : Scene state) :
    ∃ count, Agenda.run (Bridge.work m) fuel scene.agenda scene.bridge =
      ((scene.run m (.replicate count .work)).bridge,
        (scene.run m (.replicate count .work)).agenda) := by
  induction fuel generalizing scene with
  | zero =>
    refine ⟨0, ?_⟩
    rcases scene with ⟨bridge, _ | ⟨task, rest⟩⟩ <;> rfl
  | succ fuel ih =>
    rcases scene with ⟨bridge, _ | ⟨task, rest⟩⟩
    · exact ⟨0, rfl⟩
    · obtain ⟨count, worked⟩ := ih (work m ⟨bridge, task :: rest⟩)
      exact ⟨count + 1, worked⟩

end Scene

/-! ## Gates -/

/-- An open gate belongs to a recorded subscription; after the teardown nothing is recorded,
and the engine is out of reach. -/
structure Guarded (bridge : Bridge state) : Prop where
  /-- An open gate has its record. -/
  recorded : ∀ gate, bridge.gateOpen gate = true → ∃ record ∈ bridge.recorded, record.gate = gate
  /-- After the teardown nothing is recorded. -/
  undone : bridge.disposed = true → bridge.recorded = []
  /-- After the teardown the engine is out of reach. -/
  released : bridge.disposed = true → bridge.released = true

section Gates

variable {bridge : Bridge state}

/-- A new subscription has an open gate of its own; the others are as before. -/
theorem gateOpen_subscribe (bridge : Bridge state) (kind : EventKind) (gate : Nat) :
    (bridge.subscribe kind).2.gateOpen gate = true ↔
      bridge.gateOpen gate = true ∨ gate = (bridge.subscribe kind).1.gate := by
  change ((bridge.gates ++ [Gate.fresh])[gate]?.map Gate.isOpen).getD false = true ↔
    (bridge.gates[gate]?.map Gate.isOpen).getD false = true ∨ gate = bridge.gates.length
  by_cases earlier : gate < bridge.gates.length
  · simp [List.getElem?_append_left earlier, Nat.ne_of_lt earlier]
  · have beyond : bridge.gates[gate]? = none := List.getElem?_eq_none (by omega)
    rw [List.getElem?_append_right (by omega), beyond]
    by_cases last : gate = bridge.gates.length
    · simp [last, Gate.fresh]
    · have outside : [Gate.fresh][gate - bridge.gates.length]? = none :=
        List.getElem?_eq_none (by rw [List.length_singleton]; omega)
      simp [last, outside]

/-- A subscription that is undone has its gate closed; the others are as before. -/
theorem gateOpen_unsubscribe (bridge : Bridge state) (reachable : Bool) (record : Record)
    (gate : Nat) : (bridge.unsubscribe reachable record).gateOpen gate = true ↔
      bridge.gateOpen gate = true ∧ record.gate ≠ gate := by
  change ((bridge.gates.modify record.gate Gate.close)[gate]?.map Gate.isOpen).getD false = true ↔
    (bridge.gates[gate]?.map Gate.isOpen).getD false = true ∧ record.gate ≠ gate
  rw [List.getElem?_modify]
  by_cases same : record.gate = gate
  · cases bridge.gates[gate]? <;> simp [same, Gate.close]
  · simp [same]

/-- Undoing subscriptions closes their gates, and leaves alone what is recorded and the
queue. -/
theorem foldl_unsubscribe_gates (records : List Record) (bridge : Bridge state) :
    let undone := records.foldl (fun bridge record =>
      bridge.unsubscribe (!bridge.released) record) bridge
    (∀ gate, undone.gateOpen gate = true →
      bridge.gateOpen gate = true ∧ ∀ record ∈ records, record.gate ≠ gate) ∧
    undone.recorded = bridge.recorded ∧ undone.disposed = bridge.disposed ∧
      undone.outbound = bridge.outbound := by
  induction records generalizing bridge with
  | nil => exact ⟨fun gate still => ⟨still, by simp⟩, rfl, rfl, rfl⟩
  | cons record rest ih =>
    obtain ⟨closed, recorded, disposed, outbound⟩ :=
      ih (bridge.unsubscribe (!bridge.released) record)
    refine ⟨fun gate still => ?_, recorded, disposed, outbound⟩
    obtain ⟨before, others⟩ := closed gate still
    obtain ⟨earlier, other⟩ := (gateOpen_unsubscribe bridge _ record gate).mp before
    exact ⟨earlier, List.forall_mem_cons.mpr ⟨other, others⟩⟩

end Gates

/-! ## What keeps gates guarded -/

namespace Guarded

variable {bridge : Bridge state}

/-- A new bridge has no gates. -/
theorem ofEngine (engine : state) : (Bridge.ofEngine engine).Guarded :=
  ⟨fun _ still => by simp [gateOpen, Bridge.ofEngine] at still, fun _ => rfl, fun torn => by
    cases torn⟩

/-- After the teardown no gate is open. -/
theorem gateOpen_eq_false (h : bridge.Guarded) (torn : bridge.disposed = true) (gate : Nat) :
    bridge.gateOpen gate = false := by
  refine Bool.eq_false_iff.mpr fun still => ?_
  obtain ⟨record, recorded, -⟩ := h.recorded gate still
  rw [h.undone torn] at recorded
  exact List.not_mem_nil recorded

/-- Gates, records and the reach of the engine are all that matters. -/
theorem congr (h : bridge.Guarded) {after : Bridge state} (gates : after.gates = bridge.gates)
    (recorded : after.recorded = bridge.recorded) (disposed : after.disposed = bridge.disposed)
    (released : after.released = bridge.released) : after.Guarded := by
  refine ⟨fun gate still => ?_, fun torn => ?_, fun torn => ?_⟩
  · rw [recorded]
    exact h.recorded gate (by rwa [gateOpen, gates] at still)
  · rw [recorded]
    exact h.undone (disposed ▸ torn)
  · rw [released]
    exact h.released (disposed ▸ torn)

/-- A subscription is recorded as soon as it is made. -/
theorem subscribe_record (h : bridge.Guarded) (lives : bridge.disposed = false)
    (kind : EventKind) :
    let subscribed := bridge.subscribe kind
    (subscribed.2.record subscribed.1).2.Guarded ∧
      (subscribed.2.record subscribed.1).2.disposed = false ∧
      (subscribed.2.record subscribed.1).2.outbound = bridge.outbound := by
  have kept : (bridge.subscribe kind).2.record (bridge.subscribe kind).1 =
      (true, { (bridge.subscribe kind).2 with
        recorded := bridge.recorded ++ [(bridge.subscribe kind).1] }) :=
    if_neg (Bool.eq_false_iff.mp lives)
  dsimp only
  rw [kept]
  refine ⟨⟨fun gate still => ?_, fun torn => ?_, fun torn => ?_⟩, lives, rfl⟩
  · rcases (gateOpen_subscribe bridge kind gate).mp still with before | rfl
    · obtain ⟨record, recorded, same⟩ := h.recorded gate before
      exact ⟨record, List.mem_append_left _ recorded, same⟩
    · exact ⟨_, List.mem_append_right _ List.mem_cons_self, rfl⟩
  · exact absurd (lives.symm.trans torn) Bool.false_ne_true
  · exact absurd (lives.symm.trans torn) Bool.false_ne_true

/-- A subscription whose gate is closed at once needs no record. -/
theorem subscribe_unsubscribe (h : bridge.Guarded) (kind : EventKind) :
    ((bridge.subscribe kind).2.unsubscribe false (bridge.subscribe kind).1).Guarded := by
  refine ⟨fun gate still => ?_, h.undone, h.released⟩
  obtain ⟨subscribed, other⟩ := (gateOpen_unsubscribe _ false _ gate).mp still
  have before := ((gateOpen_subscribe bridge kind gate).mp subscribed).resolve_right
    fun same => other same.symm
  exact h.recorded gate before

/-- Subscriptions to several kinds of events, recorded one by one. -/
theorem foldl_subscribe_record (h : bridge.Guarded) (lives : bridge.disposed = false)
    (kinds : List EventKind) (live : Nat) :
    let connected := kinds.foldl (fun (live, bridge) kind =>
      let (subscription, bridge) := bridge.subscribe kind
      let (kept, bridge) := bridge.record subscription
      (live + kept.toNat, bridge)) (live, bridge)
    connected.2.Guarded ∧ connected.2.disposed = false ∧
      connected.2.outbound = bridge.outbound := by
  induction kinds generalizing live bridge with
  | nil => exact ⟨h, lives, rfl⟩
  | cons kind rest ih =>
    obtain ⟨guarded, still, outbound⟩ := h.subscribe_record lives kind
    obtain ⟨hguarded, hstill, houtbound⟩ := ih guarded still _
    exact ⟨hguarded, hstill, houtbound.trans outbound⟩

/-- Subscriptions to several kinds of events, undone one by one. -/
theorem foldl_subscribe_unsubscribe (h : bridge.Guarded) (kinds : List EventKind) :
    let connected := kinds.foldl (fun bridge kind =>
      let (subscription, bridge) := bridge.subscribe kind
      bridge.unsubscribe false subscription) bridge
    connected.Guarded ∧ connected.disposed = bridge.disposed ∧
      connected.outbound = bridge.outbound := by
  induction kinds generalizing bridge with
  | nil => exact ⟨h, rfl, rfl⟩
  | cons kind rest ih =>
    obtain ⟨guarded, disposed, outbound⟩ := ih (h.subscribe_unsubscribe kind)
    exact ⟨guarded, disposed, outbound⟩

end Guarded

/-! ## What happens to a guarded bridge -/

/-- One guarded bridge has come of another; if that was torn down, the queue is what the
given change made of it. -/
structure Hushed (change : Outbound → Outbound) (before after : Bridge state) : Prop where
  /-- Gates are guarded afterwards. -/
  guarded : after.Guarded
  /-- The teardown is not taken back. -/
  disposed : before.disposed = true → after.disposed = true
  /-- After the teardown the queue changes in no other way. -/
  outbound : before.disposed = true → after.outbound = change before.outbound

namespace Guarded

variable {bridge : Bridge state}

/-- Where gates, records and the reach of the engine stay as they are. -/
theorem hushed (h : bridge.Guarded) {change : Outbound → Outbound} {after : Bridge state}
    (gates : after.gates = bridge.gates) (recorded : after.recorded = bridge.recorded)
    (disposed : after.disposed = bridge.disposed) (released : after.released = bridge.released)
    (outbound : after.outbound = change bridge.outbound) : Hushed change bridge after :=
  ⟨h.congr gates recorded disposed released, fun torn => disposed.trans torn, fun _ => outbound⟩

/-- Connecting has nothing to do with the queue, and does nothing after the teardown. -/
theorem connect (h : bridge.Guarded) : Hushed id bridge bridge.connect.2 := by
  unfold Bridge.connect
  split
  · exact h.hushed rfl rfl rfl rfl rfl
  · next reach =>
    have lives : bridge.disposed = false :=
      Bool.eq_false_iff.mpr fun torn => reach (h.released torn)
    obtain ⟨guarded, still, outbound⟩ := h.foldl_subscribe_record lives EventKind.all 0
    exact ⟨guarded, fun torn => absurd (lives.symm.trans torn) Bool.false_ne_true,
      fun _ => outbound⟩

/-- Nor has connecting in vain. -/
theorem connectInVain (h : bridge.Guarded) : Hushed id bridge bridge.connectInVain := by
  unfold Bridge.connectInVain
  split
  · exact h.hushed rfl rfl rfl rfl rfl
  · obtain ⟨guarded, disposed, outbound⟩ := h.foldl_subscribe_unsubscribe EventKind.all
    exact ⟨guarded, fun torn => disposed.trans torn, fun _ => outbound⟩

/-- An event is forwarded only as long as the gate is open, and so not after the teardown. -/
theorem forward (h : bridge.Guarded) (gate : Nat) (event : Event) :
    Hushed id bridge (bridge.forward gate event) := by
  unfold Bridge.forward
  split
  · next still =>
    refine ⟨h.congr rfl rfl rfl rfl, id, fun torn => ?_⟩
    rw [h.gateOpen_eq_false torn gate] at still
    cases still
  · exact h.hushed rfl rfl rfl rfl rfl

end Guarded

/-- Giving the engine away leaves alone gates, records and the queue. -/
theorem release_gates (m : Engine state pending) (bridge : Bridge state) :
    (release m bridge).1.gates = bridge.gates ∧ (release m bridge).1.recorded = bridge.recorded ∧
      (release m bridge).1.disposed = bridge.disposed ∧
      (release m bridge).1.outbound = bridge.outbound ∧
      (release m bridge).1.released = true := by
  unfold release
  split
  · next given => exact ⟨rfl, rfl, rfl, rfl, given⟩
  · exact ⟨rfl, rfl, rfl, rfl, rfl⟩

/-- Whoever tears a bridge down, it is torn down then, and nothing was queued. -/
theorem Guarded.tearDown (m : Engine state pending) {bridge : Bridge state} (h : bridge.Guarded) :
    (tearDown m bridge).1.Guarded ∧ (tearDown m bridge).1.disposed = true ∧
      (tearDown m bridge).1.outbound = bridge.outbound := by
  unfold Bridge.tearDown
  split
  · next torn => exact ⟨h.congr rfl rfl rfl rfl, torn, rfl⟩
  · obtain ⟨closed, recorded, disposed, outbound⟩ := foldl_unsubscribe_gates bridge.recorded
      { bridge with disposed := true, recorded := [], attached := none }
    generalize bridge.recorded.foldl _ _ = undone at closed recorded disposed outbound
    have shut (gate : Nat) : undone.gateOpen gate = false := by
      refine Bool.eq_false_iff.mpr fun still => ?_
      obtain ⟨before, others⟩ := closed gate still
      obtain ⟨record, hrecord, same⟩ := h.recorded gate before
      exact others record hrecord same
    have given (stopped : Bridge state) (gates : stopped.gates = undone.gates)
        (hrecorded : stopped.recorded = undone.recorded)
        (hdisposed : stopped.disposed = undone.disposed)
        (houtbound : stopped.outbound = undone.outbound) :
        (release m stopped).1.Guarded ∧ (release m stopped).1.disposed = true ∧
          (release m stopped).1.outbound = bridge.outbound := by
      obtain ⟨hg, hr, hd, ho, reach⟩ := release_gates m stopped
      refine ⟨⟨fun gate still => ?_, fun _ => ?_, fun _ => reach⟩, ?_, ?_⟩
      · rw [gateOpen, hg, gates] at still
        exact absurd ((shut gate).symm.trans still) Bool.false_ne_true
      · rw [hr, hrecorded, recorded]
      · rw [hd, hdisposed, disposed]
      · rw [ho, houtbound, outbound]
    dsimp only
    split
    · exact given (undone.stopSupervisor _) rfl rfl rfl rfl
    · exact given undone rfl rfl rfl rfl

/-- Every task leaves gates guarded, and after the teardown none adds to the queue. -/
theorem Guarded.work (m : Engine state pending) {bridge : Bridge state} (h : bridge.Guarded)
    (task : Task) : Hushed id bridge (work m task bridge).1 := by
  cases task with
  | deliver handler event =>
    cases handler with
    | forward gate => exact h.forward gate event
    | react acts => exact h.hushed rfl rfl rfl rfl rfl
  | perform act =>
    cases act with
    | emit event => exact h.hushed rfl rfl rfl rfl rfl
    | subscribe kind reaction => exact h.hushed rfl rfl rfl rfl rfl
    | unsubscribe id => exact h.hushed rfl rfl rfl rfl rfl
    | tearDown =>
      obtain ⟨guarded, disposed, outbound⟩ := h.tearDown m
      exact ⟨guarded, fun _ => disposed, fun _ => outbound⟩
  | conclude subscriptions => exact h.hushed rfl rfl rfl rfl rfl

/-! ## Runs -/

namespace Scene

variable {scene : Scene state}

/-- What a move does. -/
theorem step_hushed (m : Engine state pending) (guarded : scene.bridge.Guarded) (move : Move) :
    Hushed move.affect scene.bridge (scene.step m move).bridge := by
  cases move with
  | work =>
    change Hushed id scene.bridge (scene.work m).bridge
    unfold work
    split
    · exact guarded.hushed rfl rfl rfl rfl rfl
    · next task rest _ => exact guarded.work m task
  | connect => exact guarded.connect
  | connectInVain => exact guarded.connectInVain
  | act act => exact guarded.hushed rfl rfl rfl rfl rfl
  | send message => exact guarded.hushed rfl rfl rfl rfl rfl
  | take => exact guarded.hushed rfl rfl rfl rfl rfl
  | closeOutbound => exact guarded.hushed rfl rfl rfl rfl rfl
  | dropReceiver => exact guarded.hushed rfl rfl rfl rfl rfl

/-- What moves do, one after the other. -/
theorem run_hushed (m : Engine state pending) (guarded : scene.bridge.Guarded)
    (moves : List Move) :
    Hushed (fun outbound => moves.foldl (fun outbound move => move.affect outbound) outbound)
      scene.bridge (scene.run m moves).bridge := by
  induction moves generalizing scene with
  | nil => exact guarded.hushed rfl rfl rfl rfl rfl
  | cons move rest ih =>
    have first := scene.step_hushed m guarded move
    have others := ih first.guarded
    refine ⟨others.guarded, fun torn => others.disposed (first.disposed torn), fun torn => ?_⟩
    rw [run, List.foldl_cons, ← run, others.outbound (first.disposed torn), first.outbound torn]
    rfl

end Scene

/-- To do tasks is nothing that affects the queue by itself. -/
theorem foldl_affect_work (count : Nat) (outbound : Outbound) :
    (List.replicate count Move.work).foldl (fun outbound move => move.affect outbound) outbound =
      outbound := by
  induction count with
  | zero => rfl
  | succ count ih => exact ih

/-- What was torn down stays silent while an agenda is worked off. -/
theorem Guarded.outbound_settle (m : Engine state pending) {bridge : Bridge state}
    (h : bridge.Guarded) (torn : bridge.disposed = true) (agenda : List Task) :
    (bridge.settle m agenda).1.outbound = bridge.outbound := by
  obtain ⟨count, worked⟩ := Scene.exists_run_work m Agenda.patience ⟨bridge, agenda⟩
  let scene : Scene state := ⟨bridge, agenda⟩
  have guarded : scene.bridge.Guarded := h
  have hushed := scene.run_hushed m guarded (.replicate count .work)
  rw [settle, worked, hushed.outbound torn, foldl_affect_work]

/-- Whatever has happened to a bridge: once somebody tears it down, no event is queued any
more. The queue is from then on what others make of it themselves. Nor do emissions and
further teardowns add to it that are carried out to their end. -/
theorem silent_after_tearDown (m : Engine state pending) (engine : state)
    (earlier later : List Move)
    (begun : ((Scene.start engine).run m earlier).agenda.head? = some (.perform .tearDown)) :
    let before := ((Scene.start engine).run m earlier).bridge
    let after := ((Scene.start engine).run m (earlier ++ .work :: later)).bridge
    after.outbound = later.foldl (fun outbound move => move.affect outbound) before.outbound ∧
      (∀ event, (after.emit m event).2.1.outbound = after.outbound) ∧
      (after.runOnce m).2.1.outbound = after.outbound := by
  intro before after
  have guarded : before.Guarded := (Scene.run_hushed m (.ofEngine engine) earlier).guarded
  obtain ⟨rest, agenda⟩ := List.head?_eq_some_iff.mp begun
  have torn : (((Scene.start engine).run m earlier).work m).bridge = (tearDown m before).1 := by
    rw [Scene.work, agenda]
    rfl
  obtain ⟨still, disposed, outbound⟩ := guarded.tearDown m
  rw [← torn] at still disposed outbound
  have hushed := Scene.run_hushed m still later
  have reached : after =
      ((((Scene.start engine).run m earlier).work m).run m later).bridge := by
    simp only [after, Scene.run, List.foldl_append, List.foldl_cons, Scene.step]
  rw [reached]
  refine ⟨?_, fun event => ?_, ?_⟩
  · rw [hushed.outbound disposed, outbound]
  · exact hushed.guarded.outbound_settle m (hushed.disposed disposed) _
  · exact hushed.guarded.outbound_settle m (hushed.disposed disposed) _

namespace Sample

/-- An event without content. -/
def event (kind : EventKind) : Event := ⟨kind, .null⟩

/-- An engine that publishes an event while it is disposed of. -/
def engine : Engine Unit Empty :=
  { Engine.bare with dispose := fun _ => ((), [event .telemetry]) }

/-- A foreign handler tears the bridge down when it is told of an event, before the bridge
is; another event was forwarded before. -/
def untilTearDown : List Move :=
  [.act (.subscribe .telemetry [.tearDown]), .work, .connect,
    .act (.emit (event .logMessage)), .work, .work, .act (.emit (event .telemetry)), .work, .work]

/-- Whatever is left is done, and once more the bridge is connected and an event is
published. -/
def afterwards : List Move :=
  .replicate 5 .work ++ [.connect, .act (.emit (event .logMessage)), .work, .work]

end Sample

/-- The event that was forwarded before is queued. The one that a foreign handler answers by
the teardown is not, nor is what the engine publishes while it is disposed of, nor what is
published after the bridge was connected again. -/
theorem silent_after_tearDown_amid_emission :
    ((Scene.start ()).run Sample.engine Sample.untilTearDown).agenda.length = 2 ∧
      ((Scene.start ()).run Sample.engine Sample.untilTearDown).agenda.head? =
        some (.perform .tearDown) ∧
      ((Scene.start ()).run Sample.engine Sample.untilTearDown).bridge.outbound.queued.length = 1 ∧
      ((Scene.start ()).run Sample.engine
          (Sample.untilTearDown ++ .work :: Sample.afterwards)).bridge.outbound =
        ((Scene.start ()).run Sample.engine Sample.untilTearDown).bridge.outbound := by
  have begun : ((Scene.start ()).run Sample.engine Sample.untilTearDown).agenda.head? =
      some (.perform .tearDown) := by
    rfl
  have unaffected (outbound : Outbound) :
      Sample.afterwards.foldl (fun outbound move => move.affect outbound) outbound = outbound :=
    rfl
  have silent := (silent_after_tearDown Sample.engine () _ Sample.afterwards begun).1
  rw [unaffected] at silent
  exact ⟨by decide +kernel, begun, by decide +kernel, silent⟩

end LspGateway.Bridge
