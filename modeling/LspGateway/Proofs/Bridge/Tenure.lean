import LspGateway.Proofs.Bridge.Silence
import LspGateway.Proofs.Bridge.Undoing
import LspGateway.Proofs.Engine.Recording

/-!
# What happens to a bridge over its time

A bridge is connected, supervisors are put in charge of it, events are published, and it is
torn down, by whom and in the middle of whatever. Others subscribe to the same engine and take
their own subscriptions back, but leave those of the bridge alone. It is noted beside the bridge
who subscribed otherwise, which supervisors were handed over, and what those were told who tore
the bridge down.
-/

namespace LspGateway.Bridge

variable {state pending : Type}

/-! ## Handlers of others -/

/-- Whether a handler is one of the bridge. -/
def Handler.isForward : Handler → Bool
  | .forward _ => true
  | .react _ => false

/-- An act removes no subscription, and leads to none that does. -/
inductive Act.Spares : Act → Prop where
  /-- An event is published. -/
  | emit (event : Event) : Spares (.emit event)
  /-- A handler is subscribed that removes no subscription. -/
  | subscribe (kind : EventKind) (reaction : List Act) (spares : ∀ act ∈ reaction, Spares act) :
      Spares (.subscribe kind reaction)
  /-- The bridge is torn down. -/
  | tearDown : Spares .tearDown

/-- A handler removes no subscription. -/
def Handler.Spares : Handler → Prop
  | .forward _ => True
  | .react acts => ∀ act ∈ acts, act.Spares

/-- A task removes no subscription. -/
def Task.Spares : Task → Prop
  | .deliver handler _ => handler.Spares
  | .perform act => act.Spares
  | .conclude _ => True

/-- A recorded subscription, as the hub holds it. -/
def Record.subscription (record : Record) : Hub.Subscription Handler :=
  ⟨record.id, record.kind, .forward record.gate⟩

/-! ## Deeds -/

/-- What may be done next with a bridge. Acts may come up at any moment, so that a handler is
free to do anything whenever it is told of an event. -/
inductive Deed where
  /-- The next task is done. -/
  | work
  /-- Somebody begins an act, before everything that is still to be done. -/
  | act (act : Act) (spares : act.Spares)
  /-- Somebody else takes a subscription of their own back. -/
  | withdraw (id : Nat)
  /-- The bridge is connected. -/
  | connect
  /-- A supervisor is started. -/
  | spawn (pid interval now : Nat)
  /-- A supervisor is handed over, to be put in charge. -/
  | attach (number : Nat)
  /-- A supervisor has a turn. -/
  | watch (number : Nat) (cancelled : Bool) (now : Nat)
      (probe : Nat → Except Supervisor.ProbeError Bool)

/-- Whether the bridge is connected. -/
def Deed.isConnect : Deed → Bool
  | .connect => true
  | _ => false

/-- A bridge over its time, to an engine that keeps a record. -/
structure Tenure (state : Type) where
  /-- The bridge. -/
  bridge : Bridge (Engine.Recorded state)
  /-- What is still to be done, the next thing first. -/
  agenda : List Task
  /-- The subscriptions of others. -/
  others : List (Hub.Subscription Handler)
  /-- The supervisors that were handed over, in order. -/
  handed : List Nat
  /-- What those were told who tore the bridge down, in order. -/
  torn : List Bool

/-- Who subscribes by a task. -/
def Task.joins (bridge : Bridge state) : Task → List (Hub.Subscription Handler)
  | .perform (.subscribe kind reaction) =>
    [⟨(bridge.hub.subscribe kind (.react reaction)).1, kind, .react reaction⟩]
  | _ => []

/-- What somebody is told who tears the bridge down by a task. -/
def Task.tears (m : Engine state pending) (bridge : Bridge state) : Task → List Bool
  | .perform .tearDown => [(bridge.runOnce m).1]
  | _ => []

namespace Tenure

/-- A new bridge. -/
def start (engine : state) : Tenure state :=
  ⟨.ofEngine ⟨engine, []⟩, [], [], [], []⟩

/-- Does the next task. -/
def work (m : Engine state pending) (tenure : Tenure state) : Tenure state :=
  match tenure.agenda with
  | [] => tenure
  | task :: rest =>
    let (bridge, more) := Bridge.work (.recording m) task tenure.bridge
    { tenure with
      bridge := bridge
      agenda := more ++ rest
      others := tenure.others ++ task.joins tenure.bridge
      torn := tenure.torn ++ task.tears (.recording m) tenure.bridge }

/-- What the next task comes to. -/
theorem work_of_agenda (m : Engine state pending) (tenure : Tenure state) {task : Task}
    {rest : List Task} (agenda : tenure.agenda = task :: rest) :
    tenure.work m =
      ⟨(Bridge.work (.recording m) task tenure.bridge).1,
        (Bridge.work (.recording m) task tenure.bridge).2 ++ rest,
        tenure.others ++ task.joins tenure.bridge, tenure.handed,
        tenure.torn ++ task.tears (.recording m) tenure.bridge⟩ := by
  rw [work, agenda]

/-- Takes a subscription of somebody else back. -/
def withdraw (tenure : Tenure state) (id : Nat) : Tenure state :=
  if tenure.others.any (·.id == id) then
    { tenure with
      bridge := { tenure.bridge with hub := (tenure.bridge.hub.unsubscribe id).2 }
      others := tenure.others.filter (·.id != id) }
  else tenure

/-- Hands a supervisor over. That is possible once for each that was started. -/
def attach (tenure : Tenure state) (number : Nat) : Tenure state :=
  if number < tenure.bridge.supervisors.length ∧ number ∉ tenure.handed then
    { tenure with
      bridge := (tenure.bridge.attachSupervisor number).2
      handed := tenure.handed ++ [number] }
  else tenure

/-- Does something with the bridge. -/
def step (m : Engine state pending) (tenure : Tenure state) : Deed → Tenure state
  | .work => tenure.work m
  | .act act _ => { tenure with agenda := .perform act :: tenure.agenda }
  | .withdraw id => tenure.withdraw id
  | .connect => { tenure with bridge := tenure.bridge.connect.2 }
  | .spawn pid interval now =>
    { tenure with bridge := (tenure.bridge.spawnSupervisor pid interval now).2 }
  | .attach number => tenure.attach number
  | .watch number cancelled now probe =>
    { tenure with bridge := (tenure.bridge.turnSupervisor number cancelled now probe).2 }

/-- Does several things, one after the other. -/
def run (m : Engine state pending) (tenure : Tenure state) (deeds : List Deed) : Tenure state :=
  deeds.foldl (step m) tenure

/-- Working off an agenda is to do one task after the other. -/
theorem exists_run_work (m : Engine state pending) (fuel : Nat) (tenure : Tenure state)
    (tasks rest : List Task) (agenda : tenure.agenda = tasks ++ rest) :
    ∃ count left, (tenure.run m (.replicate count .work)).agenda = left ++ rest ∧
      Agenda.run (Bridge.work (.recording m)) fuel (tasks.map id) tenure.bridge =
        ((tenure.run m (.replicate count .work)).bridge, left.map id) := by
  refine Agenda.exists_steps (Bridge.work (.recording m)) Tenure.agenda Tenure.bridge id (work m)
    (fun count tenure => tenure.run m (.replicate count .work)) (fun _ => rfl) (fun _ _ => rfl)
    (fun tenure task rest here => ?_) fuel tenure tasks rest agenda
  obtain ⟨bridge, _, others, handed, torn⟩ := tenure
  subst here
  exact ⟨(Bridge.work (.recording m) task bridge).2, rfl, by rw [List.map_id]; rfl⟩

/-- What comes to its end is done before anything else. -/
theorem exists_run_of_settle (m : Engine state pending) (tenure : Tenure state)
    (tasks rest : List Task) (agenda : tenure.agenda = tasks ++ rest)
    {after : Bridge (Engine.Recorded state)}
    (ends : tenure.bridge.settle (.recording m) tasks = (after, [])) :
    ∃ count, (tenure.run m (.replicate count .work)).bridge = after ∧
      (tenure.run m (.replicate count .work)).agenda = rest := by
  obtain ⟨count, left, hagenda, hrun⟩ :=
    tenure.exists_run_work m Agenda.patience tasks rest agenda
  rw [List.map_id, List.map_id] at hrun
  obtain ⟨hbridge, hleft⟩ := Prod.mk.inj (hrun.symm.trans ends)
  rw [hleft] at hagenda
  exact ⟨count, hbridge, hagenda⟩

end Tenure

/-! ## Connecting -/

/-- Subscribes a forwarding handler, and records the subscription. -/
def enlist (bridge : Bridge state) (kind : EventKind) : Bridge state :=
  ((bridge.subscribe kind).2.record (bridge.subscribe kind).1).2

/-- A bridge that is connected subscribes to one kind after the other. -/
theorem connect_of_held {bridge : Bridge state} (held : bridge.released = false) :
    bridge.connect.2 = EventKind.all.foldl enlist bridge := by
  -- The connections that are counted besides make no difference to the bridge.
  have each (step : Nat × Bridge state → EventKind → Nat × Bridge state)
      (same : ∀ live bridge kind, (step (live, bridge) kind).2 = bridge.enlist kind)
      (kinds : List EventKind) (live : Nat) (bridge : Bridge state) :
      (kinds.foldl step (live, bridge)).2 = kinds.foldl enlist bridge := by
    induction kinds generalizing live bridge with
    | nil => rfl
    | cons kind rest ih =>
      rw [List.foldl_cons, List.foldl_cons, ← same live bridge kind]
      exact ih (step (live, bridge) kind).1 (step (live, bridge) kind).2
  rw [connect, if_neg (Bool.eq_false_iff.mp held)]
  exact each _ (fun _ _ _ => rfl) EventKind.all 0 bridge

/-- Before the teardown the subscription stays, and is recorded. -/
theorem enlist_of_live {bridge : Bridge state} (lives : bridge.disposed = false)
    (kind : EventKind) :
    bridge.enlist kind =
      { (bridge.subscribe kind).2 with
        recorded := bridge.recorded ++ [(bridge.subscribe kind).1] } := by
  have kept : (bridge.subscribe kind).2.disposed = false := lives
  rw [enlist, record, if_neg (Bool.eq_false_iff.mp kept)]
  rfl

/-! ## The teardown -/

/-- One bridge is what is left of another when everything recorded was undone and who was in
charge was stopped; the engine is out of reach, and was not disposed of yet. -/
structure Dismantled (bridge left : Bridge state) : Prop where
  /-- The engine is as it was. -/
  engine : left.engine = bridge.engine
  /-- What was recorded is removed from the hub, and nothing else. -/
  hub : left.hub = { bridge.hub with
    subscriptions := bridge.hub.subscriptions.filter fun subscription =>
      bridge.recorded.all (·.id != subscription.id) }
  /-- The gates of what was recorded are closed. -/
  gates : ∀ gate, left.gateOpen gate = true →
    bridge.gateOpen gate = true ∧ ∀ record ∈ bridge.recorded, record.gate ≠ gate
  /-- Nothing is recorded any more. -/
  recorded : left.recorded = []
  /-- The teardown has begun. -/
  disposed : left.disposed = true
  /-- The engine is out of reach. -/
  released : left.released = true
  /-- Who was in charge was stopped. -/
  supervisors : left.supervisors = bridge.stopAttached.supervisors
  /-- Nobody is in charge any more. -/
  attached : left.attached = none

/-- Undoing subscriptions, as long as the engine is held, removes them from the hub and leaves
alone everything but the hub, the gates and the journal. -/
theorem foldl_unsubscribe_hub (records : List Record) (bridge : Bridge state)
    (held : bridge.released = false) :
    ∃ gates journal, records.foldl (fun bridge record =>
        bridge.unsubscribe (!bridge.released) record) bridge =
      { bridge with
        hub := { bridge.hub with
          subscriptions := bridge.hub.subscriptions.filter fun subscription =>
            records.all (·.id != subscription.id) }
        gates := gates
        journal := journal } := by
  induction records generalizing bridge with
  | nil =>
    have all : bridge.hub.subscriptions.filter (fun subscription =>
        ([] : List Record).all (·.id != subscription.id)) = bridge.hub.subscriptions :=
      List.filter_eq_self.mpr fun _ _ => rfl
    exact ⟨bridge.gates, bridge.journal, by rw [all]; rfl⟩
  | cons record rest ih =>
    have first : (bridge.unsubscribe (!bridge.released) record).released = false := held
    obtain ⟨gates, journal, undone⟩ := ih _ first
    refine ⟨gates, journal, undone.trans ?_⟩
    simp [unsubscribe, report, Hub.unsubscribe, held, List.filter_filter, Bool.and_comm, bne_comm]

/-- The first call of the teardown dismantles the bridge, and then disposes of the engine. -/
theorem tearDown_of_live (m : Engine state pending) {bridge : Bridge state}
    (lives : bridge.disposed = false) (held : bridge.released = false) :
    ∃ left, Dismantled bridge left ∧
      tearDown m bridge = ((disposeEngine m left).1,
        (disposeEngine m left).2 ++ [.conclude bridge.recorded.length]) := by
  let begun : Bridge state := { bridge with disposed := true, recorded := [], attached := none }
  obtain ⟨shut, -, -, -⟩ := foldl_unsubscribe_gates bridge.recorded begun
  obtain ⟨gates, journal, undone⟩ := foldl_unsubscribe_hub bridge.recorded begun held
  rw [undone] at shut
  simp only [tearDown, lives, Bool.false_eq_true, if_false]
  rw [undone]
  let left : Bridge state := { begun with
    hub := { bridge.hub with
      subscriptions := bridge.hub.subscriptions.filter fun subscription =>
        bridge.recorded.all (·.id != subscription.id) }
    gates := gates
    journal := journal }
  -- Whoever was stopped meanwhile, the engine is still held.
  have concluded (stopped : Bridge state) (reach : stopped.released = false) :
      ((release m stopped).1, (release m stopped).2 ++ [.conclude bridge.recorded.length]) =
        ((disposeEngine m { stopped with released := true }).1,
          (disposeEngine m { stopped with released := true }).2 ++
            [.conclude bridge.recorded.length]) := by
    rw [release, if_neg (Bool.eq_false_iff.mp reach)]
  cases charge : bridge.attached with
  | none =>
    refine ⟨{ left with released := true }, ⟨rfl, rfl, shut, rfl, rfl, rfl, ?_, rfl⟩,
      concluded left held⟩
    rw [stopAttached, charge]
  | some number =>
    refine ⟨{ left.stopSupervisor number with released := true },
      ⟨rfl, rfl, shut, rfl, rfl, rfl, ?_, rfl⟩, concluded (left.stopSupervisor number) held⟩
    rw [stopAttached, charge]
    rfl

end LspGateway.Bridge
