import LspGateway.Proofs.Bridge.Undoing
import LspGateway.Session.Frame

/-!
# Sessions that are alike

Much of what a session does is of no consequence for the protocol: it reports
things, forwards events, and begins to watch a process. Two sessions are alike
if nothing but that has happened between them. What else a session does is said
up to this likeness, so that statements about the protocol need not follow every
report.
-/

namespace LspGateway.Session

variable {state pending : Type}

/-- One session has come of another by reports, forwarded events and the watch
over processes alone. -/
structure Alike (before after : Session state pending) : Prop where
  /-- The settings are as before. -/
  config : after.config = before.config
  /-- The lifecycle is as before. -/
  lifecycle : after.lifecycle = before.lifecycle
  /-- The outstanding requests are as before. -/
  registry : after.registry = before.registry
  /-- The tasks are as before. -/
  tasks : after.tasks = before.tasks
  /-- The message that waits for the engine is as before. -/
  turn : after.turn = before.turn
  /-- The number of the next task is as before. -/
  nextTicket : after.nextTicket = before.nextTicket
  /-- The engine is as before. -/
  engine : after.bridge.engine = before.bridge.engine
  /-- The subscriptions are as before. -/
  hub : after.bridge.hub = before.bridge.hub
  /-- The gates are as before. -/
  gates : after.bridge.gates = before.bridge.gates
  /-- The recorded subscriptions are as before. -/
  recorded : after.bridge.recorded = before.bridge.recorded
  /-- Whether the engine was given away is as before. -/
  released : after.bridge.released = before.bridge.released
  /-- Whether the teardown has begun is as before. -/
  disposed : after.bridge.disposed = before.bridge.disposed
  /-- No supervisor is forgotten. -/
  watches : before.bridge.Watches after.bridge
  /-- Only notifications were queued. -/
  outbound : before.bridge.outbound.Notified after.bridge.outbound

namespace Alike

/-- Nothing at all has happened. -/
theorem refl (session : Session state pending) : session.Alike session :=
  ⟨rfl, rfl, rfl, rfl, rfl, rfl, rfl, rfl, rfl, rfl, rfl, rfl, .refl _, .refl _⟩

/-- Likeness carries on. -/
theorem trans {a b c : Session state pending} (hab : a.Alike b) (hbc : b.Alike c) :
    a.Alike c where
  config := hbc.config.trans hab.config
  lifecycle := hbc.lifecycle.trans hab.lifecycle
  registry := hbc.registry.trans hab.registry
  tasks := hbc.tasks.trans hab.tasks
  turn := hbc.turn.trans hab.turn
  nextTicket := hbc.nextTicket.trans hab.nextTicket
  engine := hbc.engine.trans hab.engine
  hub := hbc.hub.trans hab.hub
  gates := hbc.gates.trans hab.gates
  recorded := hbc.recorded.trans hab.recorded
  released := hbc.released.trans hab.released
  disposed := hbc.disposed.trans hab.disposed
  watches := hab.watches.trans hbc.watches
  outbound := hab.outbound.trans hbc.outbound

/-- A hub that only forwards does so afterwards. -/
theorem onlyForwards {before after : Session state pending} (h : before.Alike after)
    (hf : before.bridge.OnlyForwards) : after.bridge.OnlyForwards := by
  unfold Bridge.OnlyForwards
  rw [h.hub]
  exact hf

/-- What was forwarded makes no other difference. -/
theorem ofNotified {session : Session state pending} {bridge : Bridge state}
    (h : session.bridge.Notified bridge) : session.Alike { session with bridge := bridge } :=
  ⟨rfl, rfl, rfl, rfl, rfl, rfl, h.engine, h.hub, h.gates, h.recorded, h.released, h.disposed,
    .ofNotified h, h.outbound⟩

/-- Sessions that are alike remain so under the same lifecycle. -/
theorem withLifecycle {before after : Session state pending} (h : before.Alike after)
    (lifecycle : Lifecycle) :
    { before with lifecycle := lifecycle }.Alike { after with lifecycle := lifecycle } :=
  { h with lifecycle := rfl }

/-- Sessions that are alike remain so with the same message waiting. -/
theorem withTurn {before after : Session state pending} (h : before.Alike after)
    (turn : Option (Turn pending)) :
    { before with turn := turn }.Alike { after with turn := turn } :=
  { h with turn := rfl }

/-- Reporting. -/
theorem report (session : Session state pending) (entries : List Log.Entry) :
    session.Alike (session.report entries) :=
  ofNotified (.report session.bridge entries)

/-- Publishing events at a hub that only forwards. -/
theorem publish (m : Engine state pending) {session : Session state pending}
    (h : session.bridge.OnlyForwards) (events : List Event) :
    session.Alike (session.publish m events) :=
  ofNotified (Bridge.notified_foldl_emit m h events)

/-- A change of the lifecycle is no more than that. -/
theorem pass (session : Session state pending) (next : Lifecycle) :
    { session with lifecycle := next }.Alike (session.pass next) :=
  report { session with lifecycle := next } _

/-- Beginning to watch a process. -/
theorem supervise (session : Session state pending) (world : World) (pid : Nat) :
    session.Alike (session.supervise world pid) := by
  unfold Session.supervise
  split
  · exact refl session
  · next vacant =>
    have watches := Bridge.Watches.supervise session.bridge (by simpa using vacant) pid
      session.config.pollInterval world.now
    dsimp only
    split
    · unfold Bridge.spawnSupervisor Bridge.attachSupervisor at watches ⊢
      dsimp only at watches ⊢
      split at watches
      · next disposed =>
        rw [if_pos disposed]
        exact ⟨rfl, rfl, rfl, rfl, rfl, rfl, rfl, rfl, rfl, rfl, rfl, rfl, watches, .refl _⟩
      · next lives =>
        rw [if_neg lives]
        unfold Bridge.stopAttached at watches ⊢
        split at watches <;>
          exact ⟨rfl, rfl, rfl, rfl, rfl, rfl, rfl, rfl, rfl, rfl, rfl, rfl, watches, .refl _⟩
    · exact ⟨rfl, rfl, rfl, rfl, rfl, rfl, rfl, rfl, rfl, rfl, rfl, rfl, .ofEq rfl rfl rfl, .refl _⟩
    · exact ⟨rfl, rfl, rfl, rfl, rfl, rfl, rfl, rfl, rfl, rfl, rfl, rfl, .ofEq rfl rfl rfl, .refl _⟩

end Alike

/-- An answer is a response under the identifier of the request. -/
theorem reply_eq (session : Session state pending) (id : RequestId) (method : String)
    (result : Except Dispatch.Error Json) :
    ∃ told answer, session.Alike told ∧
      session.reply id method result = told.send (.response (some id) answer) := by
  cases result with
  | ok value => exact ⟨session, .result value, .refl session, rfl⟩
  | error error => exact ⟨_, .error error.response, .report session _, rfl⟩

end LspGateway.Session
