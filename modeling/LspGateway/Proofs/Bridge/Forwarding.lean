import LspGateway.Bridge.Basic

/-!
# Bridges that only forward

The hub of a session's engine has no handlers but those that forward to the
client. Under that condition an emission changes nothing of a bridge but its
journal and the end of its queue, where notifications are put and never a
response; and the teardown releases the engine and disposes of it, whatever the
engine publishes meanwhile.
-/

namespace LspGateway

/-- What every task keeps is kept by a whole agenda, provided that admitted
tasks lead to admitted tasks only. The fuel does not matter. -/
theorem Agenda.run_induction {state task : Type} {work : task → state → state × List task}
    (kept : state → Prop) (admitted : task → Prop)
    (step : ∀ t s, admitted t → kept s → kept (work t s).1 ∧ ∀ t' ∈ (work t s).2, admitted t')
    {fuel : Nat} {agenda : List task} {s : state} (tasks : ∀ t ∈ agenda, admitted t)
    (start : kept s) : kept (run work fuel agenda s).1 := by
  induction fuel generalizing agenda s with
  | zero => cases agenda <;> exact start
  | succ fuel ih =>
    cases agenda with
    | nil => exact start
    | cons first rest =>
      have h := step first s (tasks first List.mem_cons_self) start
      change kept (run work fuel ((work first s).2 ++ rest) (work first s).1).1
      refine ih (fun t ht => ?_) h.1
      rcases List.mem_append.mp ht with hmore | hrest
      · exact h.2 t hmore
      · exact tasks t (List.mem_cons_of_mem first hrest)

/-- What is mapped before each task may as well be mapped in the end. -/
theorem Agenda.run_map {first second task : Type} (view : first → second)
    {work : task → first → first × List task} {work' : task → second → second × List task}
    (same : ∀ t s, work' t (view s) = (view (work t s).1, (work t s).2)) (fuel : Nat)
    (agenda : List task) (s : first) :
    run work' fuel agenda (view s) =
      (view (run work fuel agenda s).1, (run work fuel agenda s).2) := by
  induction fuel generalizing agenda s with
  | zero => cases agenda <;> rfl
  | succ fuel ih =>
    cases agenda with
    | nil => rfl
    | cons head rest =>
      simp only [run, same]
      exact ih _ _

/-- One queue has come of another by notifications alone; a queue that was
closed has got none. -/
structure Outbound.Notified (before after : Outbound) : Prop where
  /-- Whether messages are accepted is as before. -/
  isOpen : after.isOpen = before.isOpen
  /-- Whether somebody takes them is as before. -/
  hasReceiver : after.hasReceiver = before.hasReceiver
  /-- What was added to the queue. -/
  queued : ∃ notes, after.queued = before.queued ++ notes ∧
    (∀ note ∈ notes, note.isResponse = false) ∧ (before.isOpen = false → notes = [])

namespace Outbound.Notified

/-- Nothing at all was added. -/
theorem refl (outbound : Outbound) : outbound.Notified outbound :=
  ⟨rfl, rfl, [], by simp, by simp, fun _ => rfl⟩

/-- Additions follow each other. -/
theorem trans {a b c : Outbound} (hab : a.Notified b) (hbc : b.Notified c) : a.Notified c := by
  obtain ⟨first, hfirst, hf, hfc⟩ := hab.queued
  obtain ⟨second, hsecond, hs, hsc⟩ := hbc.queued
  refine ⟨hbc.isOpen.trans hab.isOpen, hbc.hasReceiver.trans hab.hasReceiver,
    first ++ second, ?_, ?_, ?_⟩
  · rw [hsecond, hfirst, List.append_assoc]
  · intro note hn
    rcases List.mem_append.mp hn with h | h
    · exact hf note h
    · exact hs note h
  · intro hclosed
    rw [hfc hclosed, hsc (hab.isOpen.trans hclosed)]
    rfl

/-- Sending a notification is such an addition, also where it is dropped. -/
theorem send (outbound : Outbound) (message : Outgoing) (h : message.isResponse = false) :
    outbound.Notified (outbound.send message).2.1 := by
  unfold Outbound.send
  split
  · exact refl outbound
  · next hopen =>
    split
    · exact refl outbound
    · refine ⟨rfl, rfl, [message], rfl, ?_, ?_⟩
      · intro note hn
        rw [List.mem_singleton.mp hn]
        exact h
      · intro hclosed
        simp only [hclosed, Bool.not_false, not_true_eq_false] at hopen

end Outbound.Notified

namespace Bridge

variable {state pending : Type}

/-- Every handler at the hub forwards to the client. -/
def OnlyForwards (bridge : Bridge state) : Prop :=
  ∀ subscription ∈ bridge.hub.subscriptions, ∃ gate, subscription.handler = .forward gate

/-- One bridge has come of another by forwarding events: only the journal and
the queue may differ. -/
structure Notified (before after : Bridge state) : Prop where
  /-- The engine is as before. -/
  engine : after.engine = before.engine
  /-- The subscriptions are as before. -/
  hub : after.hub = before.hub
  /-- The gates are as before. -/
  gates : after.gates = before.gates
  /-- Whether the engine was given away is as before. -/
  released : after.released = before.released
  /-- Whether the teardown has begun is as before. -/
  disposed : after.disposed = before.disposed
  /-- The recorded subscriptions are as before. -/
  recorded : after.recorded = before.recorded
  /-- The supervisors are as before. -/
  supervisors : after.supervisors = before.supervisors
  /-- The supervisor in charge is as before. -/
  attached : after.attached = before.attached
  /-- Only notifications were queued. -/
  outbound : before.outbound.Notified after.outbound

namespace Notified

/-- Nothing at all was forwarded. -/
theorem refl (bridge : Bridge state) : bridge.Notified bridge :=
  ⟨rfl, rfl, rfl, rfl, rfl, rfl, rfl, rfl, .refl _⟩

/-- Emissions follow each other. -/
theorem trans {a b c : Bridge state} (hab : a.Notified b) (hbc : b.Notified c) :
    a.Notified c where
  engine := hbc.engine.trans hab.engine
  hub := hbc.hub.trans hab.hub
  gates := hbc.gates.trans hab.gates
  released := hbc.released.trans hab.released
  disposed := hbc.disposed.trans hab.disposed
  recorded := hbc.recorded.trans hab.recorded
  supervisors := hbc.supervisors.trans hab.supervisors
  attached := hbc.attached.trans hab.attached
  outbound := hab.outbound.trans hbc.outbound

/-- A report is no more than an entry of the journal. -/
theorem report (bridge : Bridge state) (entries : List Log.Entry) :
    bridge.Notified (bridge.report entries) :=
  ⟨rfl, rfl, rfl, rfl, rfl, rfl, rfl, rfl, .refl _⟩

/-- An event is forwarded as a notification, or stopped by its gate. -/
theorem forward (bridge : Bridge state) (gate : Nat) (event : Event) :
    bridge.Notified (bridge.forward gate event) := by
  unfold Bridge.forward
  split
  · exact ⟨rfl, rfl, rfl, rfl, rfl, rfl, rfl, rfl,
      .send bridge.outbound (notificationOf event) rfl⟩
  · exact report bridge _

/-- A hub that only forwards does so afterwards. -/
theorem onlyForwards {before after : Bridge state} (h : before.Notified after)
    (hf : before.OnlyForwards) : after.OnlyForwards := by
  unfold OnlyForwards
  rw [h.hub]
  exact hf

end Notified

/-! ## Emissions -/

/-- The tasks that come up at a hub that only forwards, once the teardown has
begun: to publish, to tell a forwarding handler, and to report the end. -/
inductive Task.Forwards : Task → Prop where
  /-- A forwarding handler is told of an event. -/
  | deliver (gate : Nat) (event : Event) : Forwards (.deliver (.forward gate) event)
  /-- An event is published. -/
  | emit (event : Event) : Forwards (.perform (.emit event))
  /-- The end is reported. -/
  | conclude (subscriptions : Nat) : Forwards (.conclude subscriptions)

/-- Telling the handlers of a hub that only forwards. -/
theorem forwards_of_mem_deliveries {bridge : Bridge state} (h : bridge.OnlyForwards)
    {event : Event} {task : Task} (ht : task ∈ bridge.deliveries event) : task.Forwards := by
  simp only [deliveries, Hub.listeners, List.mem_map, List.mem_filter] at ht
  obtain ⟨_, ⟨subscription, ⟨hs, -⟩, rfl⟩, rfl⟩ := ht
  obtain ⟨gate, hg⟩ := h subscription hs
  rw [hg]
  exact .deliver gate event

/-- One such task changes no more than the journal and the queue, and leads to
such tasks only. -/
theorem work_forwards (m : Engine state pending) {start bridge : Bridge state} {task : Task}
    (hf : start.OnlyForwards) (ht : task.Forwards) (h : start.Notified bridge) :
    start.Notified (work m task bridge).1 ∧ ∀ t ∈ (work m task bridge).2, t.Forwards := by
  cases ht with
  | deliver gate event => exact ⟨h.trans (.forward bridge gate event), by simp [work]⟩
  | emit event =>
    exact ⟨h, fun t ht => forwards_of_mem_deliveries (h.onlyForwards hf) ht⟩
  | conclude subscriptions => exact ⟨h.trans (.report bridge _), by simp [work]⟩

/-- An agenda of such tasks, worked off as far as patience goes. -/
theorem run_forwards (m : Engine state pending) (fuel : Nat) {start bridge : Bridge state}
    {agenda : List Task} (hf : start.OnlyForwards) (h : start.Notified bridge)
    (tasks : ∀ t ∈ agenda, t.Forwards) :
    start.Notified (Agenda.run (work m) fuel agenda bridge).1 :=
  Agenda.run_induction start.Notified Task.Forwards
    (fun _ _ ht hs => work_forwards m hf ht hs) tasks h

/-- An emission at a hub that only forwards. -/
theorem notified_emit (m : Engine state pending) {bridge : Bridge state}
    (h : bridge.OnlyForwards) (event : Event) : bridge.Notified (bridge.emit m event).2.1 :=
  run_forwards m Agenda.patience h (.refl bridge) fun _ ht => forwards_of_mem_deliveries h ht

/-- Emissions one after the other. -/
theorem notified_foldl_emit (m : Engine state pending) {bridge : Bridge state}
    (h : bridge.OnlyForwards) (events : List Event) :
    bridge.Notified (events.foldl (fun bridge event => (bridge.emit m event).2.1) bridge) := by
  induction events generalizing bridge with
  | nil => exact .refl bridge
  | cons event rest ih =>
    have first := notified_emit m h event
    exact first.trans (ih (first.onlyForwards h))

/-! ## The teardown -/

/-- What the teardown of a bridge comes to. -/
structure TornDown (m : Engine state pending) (before after : Bridge state) : Prop where
  /-- The engine was disposed of. -/
  engine : after.engine = (m.dispose before.engine).1
  /-- The engine was given away. -/
  released : after.released = true
  /-- The teardown is over. -/
  disposed : after.disposed = true
  /-- The handlers that are left forward to the client. -/
  onlyForwards : after.OnlyForwards
  /-- Only notifications were queued. -/
  outbound : before.outbound.Notified after.outbound

/-- Undoing subscriptions leaves alone everything but the hub, the gates and the
journal, and adds no handler. -/
theorem foldl_unsubscribe (records : List Record) (bridge : Bridge state)
    (h : bridge.OnlyForwards) :
    let undone := records.foldl (fun bridge record =>
      bridge.unsubscribe (!bridge.released) record) bridge
    undone.OnlyForwards ∧ undone.engine = bridge.engine ∧ undone.released = bridge.released ∧
      undone.disposed = bridge.disposed ∧ undone.outbound = bridge.outbound := by
  induction records generalizing bridge with
  | nil => exact ⟨h, rfl, rfl, rfl, rfl⟩
  | cons record rest ih =>
    have first : (bridge.unsubscribe (!bridge.released) record).OnlyForwards := by
      intro subscription hs
      refine h subscription ?_
      simp only [unsubscribe, report, Hub.unsubscribe] at hs
      split at hs
      · exact (List.mem_filter.mp hs).1
      · exact hs
    obtain ⟨hf, he, hr, hd, ho⟩ := ih _ first
    exact ⟨hf, he.trans rfl, hr.trans rfl, hd.trans rfl, ho.trans rfl⟩

/-- Giving the engine away, once everything else is undone. -/
theorem release_spec (m : Engine state pending) (before undone : Bridge state)
    (hf : undone.OnlyForwards) (he : undone.engine = before.engine)
    (hr : undone.released = false) (hd : undone.disposed = true)
    (ho : undone.outbound = before.outbound) :
    TornDown m before (release m undone).1 ∧ ∀ t ∈ (release m undone).2, t.Forwards := by
  have hrelease : release m undone = disposeEngine m { undone with released := true } := by
    simp only [release, hr, Bool.false_eq_true, if_false]
  rw [hrelease]
  refine ⟨⟨?_, rfl, hd, hf, ho ▸ .refl _⟩, ?_⟩
  · rw [← he]
    rfl
  · intro t ht
    obtain ⟨event, -, rfl⟩ := List.mem_map.mp ht
    exact .emit event

/-- The teardown itself, without the events that the engine publishes on the
way: those are left as tasks. -/
theorem tearDown_spec (m : Engine state pending) {bridge : Bridge state}
    (h : bridge.OnlyForwards) (hd : bridge.disposed = false) (hr : bridge.released = false) :
    TornDown m bridge (tearDown m bridge).1 ∧ ∀ t ∈ (tearDown m bridge).2, t.Forwards := by
  obtain ⟨hf, he, hr', hd', ho⟩ := foldl_unsubscribe bridge.recorded
    { bridge with disposed := true, recorded := [], attached := none } h
  have released : TornDown m bridge (tearDown m bridge).1 ∧
      ∀ t ∈ (tearDown m bridge).2, t.Forwards ∨ t = .conclude bridge.recorded.length := by
    simp only [tearDown, hd, Bool.false_eq_true, if_false, List.mem_append, List.mem_singleton]
    split
    · next number _ =>
      have spec := release_spec m bridge (stopSupervisor _ number) hf he (hr'.trans hr) hd' ho
      exact ⟨spec.1, fun t ht => ht.imp_left (spec.2 t)⟩
    · have spec := release_spec m bridge _ hf he (hr'.trans hr) hd' ho
      exact ⟨spec.1, fun t ht => ht.imp_left (spec.2 t)⟩
  refine ⟨released.1, fun t ht => ?_⟩
  rcases released.2 t ht with h | rfl
  · exact h
  · exact .conclude _

/-- What comes of the teardown afterwards is forwarding. -/
theorem notified_runOnce (m : Engine state pending) {bridge : Bridge state}
    (h : bridge.OnlyForwards) (hd : bridge.disposed = false) (hr : bridge.released = false) :
    (tearDown m bridge).1.Notified (bridge.runOnce m).2.1 := by
  obtain ⟨torn, tasks⟩ := tearDown_spec m h hd hr
  -- The first task of the agenda is the teardown; what it leaves only forwards.
  change (tearDown m bridge).1.Notified
    (Agenda.run (work m) 999999 ((tearDown m bridge).2 ++ []) (tearDown m bridge).1).1
  exact run_forwards m _ torn.onlyForwards (.refl _) (by simpa using tasks)

/-- The teardown, with everything that comes of it. -/
theorem tornDown_runOnce (m : Engine state pending) {bridge : Bridge state}
    (h : bridge.OnlyForwards) (hd : bridge.disposed = false) (hr : bridge.released = false) :
    TornDown m bridge (bridge.runOnce m).2.1 := by
  obtain ⟨torn, -⟩ := tearDown_spec m h hd hr
  have rest := notified_runOnce m h hd hr
  exact ⟨rest.engine.trans torn.engine, rest.released.trans torn.released,
    rest.disposed.trans torn.disposed, rest.onlyForwards torn.onlyForwards,
    torn.outbound.trans rest.outbound⟩

/-- A bridge as it stands at the beginning of a session only forwards. -/
theorem onlyForwards_connect (engine : state) : (Bridge.ofEngine engine).connect.2.OnlyForwards := by
  intro subscription hs
  simp only [connect, ofEngine, EventKind.all, List.foldl_cons, List.foldl_nil, subscribe, record,
    report, Hub.subscribe, Hub.empty, Bool.false_eq_true, if_false, List.nil_append,
    List.cons_append, List.mem_cons, List.not_mem_nil, or_false] at hs
  rcases hs with rfl | rfl | rfl | rfl | rfl | rfl | rfl <;> exact ⟨_, rfl⟩

end Bridge

end LspGateway
