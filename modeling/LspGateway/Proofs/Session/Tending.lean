import LspGateway.Proofs.Session.Steps
import LspGateway.Proofs.Session.Teardown

/-!
# All or nothing

The teardown is one step with many parts, and there are many ways to it: the exit, the
death of the client, the end of the input, a fault of the input or the output, and giving
the session up. Whichever comes first runs all of it, and whatever comes later runs none.
So everything that a session shows of its end agrees between any two acts, and once it has
ended nothing that it took hold of is left: no subscription, no supervisor that goes on, no
request that was not told.
-/

namespace LspGateway

namespace Session

variable {state pending : Type}

/-- What a session took hold of is booked, and the reason is known exactly once it has
ended. -/
structure Tended (session : Session state pending) : Prop where
  /-- Subscriptions are recorded. -/
  booked : session.bridge.Booked
  /-- Supervisors are stopped or in charge. -/
  watched : session.bridge.Watched
  /-- The reason comes with the end. -/
  ending : session.lifecycle.ending.isSome = session.hasEnded

/-- One session has come of another, and nothing that it took hold of was forgotten. -/
structure Tends (before after : Session state pending) : Prop where
  /-- Supervisors are only added. -/
  supervisors : before.bridge.supervisors.map Supervisor.pid <+:
    after.bridge.supervisors.map Supervisor.pid
  /-- Handles are only added. -/
  issued : before.registry.issued <+: after.registry.issued
  /-- What is booked stays so. -/
  tended : before.Tended → after.Tended

/-- A session that has seen no message. -/
theorem Tended.create (engine : state) (config : SessionConfig) :
    (Session.create engine config : Session state pending).Tended :=
  ⟨(Bridge.booked_connect engine).1, Bridge.watched_connect engine, rfl⟩

namespace Tends

variable {before after : Session state pending}

/-- Nothing that concerns the teardown has happened but to supervisors and handles. -/
theorem ofEq (hub : after.bridge.hub = before.bridge.hub)
    (recorded : after.bridge.recorded = before.bridge.recorded)
    (disposed : after.bridge.disposed = before.bridge.disposed)
    (watches : before.bridge.Watches after.bridge)
    (ending : after.lifecycle.ending = before.lifecycle.ending)
    (ended : after.hasEnded = before.hasEnded)
    (issued : before.registry.issued <+: after.registry.issued) : before.Tends after := by
  refine ⟨watches.started, issued, fun tended => ⟨⟨?_, ?_⟩, watches.watched tended.watched, ?_⟩⟩
  · rw [hub, recorded]
    exact tended.booked.recorded
  · rw [disposed, recorded]
    exact tended.booked.undone
  · rw [ending, ended]
    exact tended.ending

/-- Nothing at all has happened. -/
theorem refl (session : Session state pending) : session.Tends session :=
  ⟨List.prefix_rfl, List.prefix_rfl, id⟩

/-- One thing happens after the other. -/
theorem trans {a b c : Session state pending} (hab : a.Tends b) (hbc : b.Tends c) : a.Tends c :=
  ⟨hab.supervisors.trans hbc.supervisors, hab.issued.trans hbc.issued, hbc.tended ∘ hab.tended⟩

/-- A step of the lifecycle before the end. -/
theorem withLifecycle {session : Session state pending} (lives : session.hasEnded = false)
    {next : Lifecycle} (ending : next.ending = session.lifecycle.ending)
    (phase : next.phase ≠ .exited) : session.Tends { session with lifecycle := next } := by
  refine ofEq rfl rfl rfl (.refl _) ending ?_ List.prefix_rfl
  rw [lives]
  simpa [hasEnded] using phase

end Tends

/-- Sessions that are alike are tended together. -/
theorem Alike.tends {session told : Session state pending} (h : session.Alike told) :
    session.Tends told :=
  .ofEq h.hub h.recorded h.disposed h.watches (congrArg Lifecycle.ending h.lifecycle) h.hasEnded
    (h.registry ▸ List.prefix_rfl)

/-- The beginning of a duty leaves the reason alone. -/
theorem Duty.Starts.ending {duty : Duty} {before after : Lifecycle} (h : duty.Starts before after) :
    after.ending = before.ending := by
  have hinv := h.inv
  cases duty with
  | opening id => rw [hinv.2]
  | confirmation => rw [hinv.2]
  | shutdown id => rw [hinv.2]
  | exit => rw [hinv]
  | notice notice => rw [hinv.2]

/-- The end of a duty leaves the reason alone. -/
theorem Duty.ending_settle (duty : Duty) (outcome : Engine.Outcome) (lifecycle : Lifecycle) :
    (duty.settle outcome lifecycle).ending = lifecycle.ending := by
  have aborted : lifecycle.abortHandshake.ending = lifecycle.ending := by
    unfold Lifecycle.abortHandshake
    split <;> rfl
  cases duty <;> cases outcome <;> first | rfl | exact aborted

section Steps

variable {m : Engine state pending} {session : Session state pending}

/-- The end undoes everything; further reasons to end do nothing. -/
theorem Coherent.tends_terminate (h : session.Coherent) (ending : Ending) :
    session.Tends (session.terminate m ending) := by
  cases lives : session.hasEnded with
  | true =>
    rw [terminate_of_exited m session ending (by simpa [hasEnded] using lives)]
    exact .refl session
  | false =>
    have disposed := h.disposed.trans lives
    have held := h.released.trans lives
    refine Tends.trans ⟨?_, ?_, fun tended => ?_⟩ (alike_terminate m lives ending).tends
    · change _ <+: (session.bridge.runOnce m).2.1.supervisors.map Supervisor.pid
      rw [Bridge.map_pid_runOnce m h.onlyForwards disposed held]
    · change _ <+: session.registry.cancelSession.issued
      rw [Registry.issued_cancelSession]
    · have undone :=
        Bridge.undone_runOnce m h.onlyForwards tended.booked tended.watched disposed held
      exact ⟨⟨undone.booked.recorded, undone.booked.undone⟩,
        ⟨undone.watched.stopped, undone.watched.undone⟩, rfl⟩

/-- Nothing is forgotten in a step. -/
theorem Step.tends {after : Session state pending} (step : Step m session after) :
    session.Tends after := by
  cases step with
  | told alike => exact alike.tends
  | sent message => exact .ofEq rfl rfl rfl (.ofEq rfl rfl rfl) rfl rfl List.prefix_rfl
  | stirred engine => exact .ofEq rfl rfl rfl (.ofEq rfl rfl rfl) rfl rfl List.prefix_rfl
  | turned turn => exact .ofEq rfl rfl rfl (.refl _) rfl rfl List.prefix_rfl
  | started duty next lives starts =>
    have phase := (starts.fitsIn (by simpa [hasEnded] using lives)).ne_exited
    exact .withLifecycle lives starts.ending phase
  | settled duty outcome fits =>
    have lives : session.hasEnded = false := by simpa [hasEnded] using fits.ne_exited
    exact .withLifecycle lives (duty.ending_settle outcome _)
      (Coherent.settle_ne_exited fits outcome)
  | cancelled id =>
    exact .ofEq rfl rfl rfl (.refl _) rfl rfl
      (Registry.issued_cancel session.registry id ▸ List.prefix_rfl)
  | enlisted id feature params phase free =>
    exact .ofEq rfl rfl rfl (.refl _) rfl rfl
      (Registry.issued_registered session.registry id ▸ List.prefix_append _ _)
  | parked task call member => exact .ofEq rfl rfl rfl (.refl _) rfl rfl List.prefix_rfl
  | retired task member =>
    exact .ofEq rfl rfl rfl (.refl _) rfl rfl
      (Registry.issued_ended session.registry task.id task.handle ▸ List.prefix_rfl)
  | taken => exact .ofEq rfl rfl rfl (.ofEq rfl rfl rfl) rfl rfl List.prefix_rfl
  | dropped closed => exact .ofEq rfl rfl rfl (.ofEq rfl rfl rfl) rfl rfl List.prefix_rfl
  | ended coherent ending => exact coherent.tends_terminate ending

/-- Nothing is forgotten in an act. -/
theorem Coherent.tends_perform (h : session.Coherent) (act : Act state) :
    session.Tends (session.perform m act) :=
  (h.steps_perform act).lift Tends.refl Tends.trans Step.tends

end Steps

/-! ## What a session shows of its end -/

/-- Everything that a session shows of its end says the same. -/
structure Agrees (session : Session state pending) (ended : Bool) : Prop where
  /-- The lifecycle is over. -/
  exited : (session.lifecycle.phase == .exited) = ended
  /-- There is a reason. -/
  ending : session.lifecycle.ending.isSome = ended
  /-- The session was told to stop. -/
  cancelled : session.isCancelled = ended
  /-- The teardown has run. -/
  disposed : session.bridge.disposed = ended
  /-- The engine was given away. -/
  released : session.bridge.released = ended
  /-- The queue is closed. -/
  closed : (!session.bridge.outbound.isOpen) = ended

/-- Nothing is left of what an earlier session took hold of. -/
structure Clears (before after : Session state pending) : Prop where
  /-- The hub holds no subscription that was recorded. -/
  subscriptions : ∀ record ∈ before.bridge.recorded, after.bridge.hub.holds record.id = false
  /-- Every supervisor was stopped. -/
  supervisors : ∀ (number : Nat) (supervisor : Supervisor),
    before.bridge.supervisors[number]? = some supervisor →
    ∃ stopped : Supervisor, after.bridge.supervisors[number]? = some stopped ∧
      stopped.pid = supervisor.pid ∧ stopped.stopped = true
  /-- Every request was cancelled. -/
  requests : ∀ (number : Nat) (handle : Handle), before.registry.handles[number]? = some handle →
    ∃ told : Handle, after.registry.handles[number]? = some told ∧
      told.id = handle.id ∧ told.cancelled = true

/-- The parts of a session agree on its end. -/
theorem Coherent.agrees {session : Session state pending} (h : session.Coherent)
    (tended : session.Tended) : session.Agrees session.hasEnded where
  exited := rfl
  ending := tended.ending
  cancelled := h.cancelled
  disposed := h.disposed
  released := h.released
  closed := by rw [h.isOpen, Bool.not_not]

/-- What is added behind a list of which nothing is forgotten is found in its place. -/
theorem getElem?_of_map_prefix {α β : Type} {view : α → β} {before after : List α}
    (grows : before.map view <+: after.map view) {number : Nat} {item : α}
    (found : before[number]? = some item) :
    ∃ later, after[number]? = some later ∧ view later = view item := by
  obtain ⟨more, hmore⟩ := grows
  have hview : (after.map view)[number]? = some (view item) := by
    have bound : number < (before.map view).length := by
      simpa using (List.getElem?_eq_some_iff.mp found).1
    rw [← hmore, List.getElem?_append_left bound, List.getElem?_map, found]
    rfl
  rw [List.getElem?_map] at hview
  exact Option.map_eq_some_iff.mp hview

/-- A session that has ended has let go of everything. -/
theorem Tends.clears {before after : Session state pending} (h : before.Tends after)
    (tended : before.Tended) (coherent : after.Coherent) (ended : after.hasEnded = true) :
    before.Clears after := by
  obtain ⟨booked, watched, -⟩ := h.tended tended
  have undone := Bridge.Undone.ofDisposed booked watched (coherent.disposed.trans ended)
  refine ⟨fun record _ => ?_, fun number supervisor found => ?_, fun number handle found => ?_⟩
  · simp [Hub.holds, undone.subscriptions]
  · obtain ⟨later, hlater, hpid⟩ := getElem?_of_map_prefix h.supervisors found
    exact ⟨later, hlater, hpid, undone.stopped later (List.mem_of_getElem? hlater)⟩
  · obtain ⟨later, hlater, hid⟩ := getElem?_of_map_prefix h.issued found
    exact ⟨later, hlater, hid, coherent.agreement.thorough (coherent.cancelled.trans ended) later
      (List.mem_of_getElem? hlater)⟩

/-! ## Ways to the end -/

/-- Acts that leave no session standing: the end of the input, a fault of the input or the
output, and giving the session up. -/
def Act.ends : Act state → Bool
  | .inputEnded | .inputFailed _ | .outputFailed _ | .close => true
  | _ => false

/-- After such an act the session has ended. -/
theorem Coherent.hasEnded_of_ends {m : Engine state pending} {session : Session state pending}
    (h : session.Coherent) {act : Act state} (ends : act.ends = true) :
    (session.perform m act).hasEnded = true := by
  cases act with
  | inputEnded => exact (h.alike (.report session _)).hasEnded_terminate m _
  | inputFailed fault =>
    simp only [Session.perform, inputFailed]
    split <;> exact (h.alike (.report session _)).hasEnded_terminate m _
  | outputFailed fault => exact (h.alike (.report session _)).hasEnded_terminate m _
  | close => exact h.withoutTurn.hasEnded_terminate m _
  | _ => exact absurd ends Bool.false_ne_true

/-- The record of the engine makes no difference to this. -/
theorem Act.ends_recorded (act : Act state) : act.recorded.ends = act.ends := by
  cases act <;> rfl

/-! ## The disposal -/

section Disposal

open Engine

/-- How often the engine was disposed of. -/
def disposalCount (session : Session (Recorded state) (Nat × pending)) : Nat :=
  session.asks.countP Option.isNone

/-- An act disposes of the engine if it ends the session. -/
theorem Coherent.disposalCount_perform {m : Engine state pending}
    {session : Session (Recorded state) (Nat × pending)} (h : session.Coherent)
    (once : session.disposalCount = session.hasEnded.toNat) (act : Act state) :
    (session.perform m.recording act.recorded).disposalCount =
      (session.perform m.recording act.recorded).hasEnded.toNat := by
  obtain ⟨inline, -, -, hasks⟩ := h.asks_perform (m := m) act
  -- Calls do not count.
  have gained : (session.perform m.recording act.recorded).disposalCount =
      session.disposalCount +
        (disposals session (session.perform m.recording act.recorded)).countP Option.isNone := by
    unfold disposalCount
    rw [hasks]
    simp [List.countP_append, List.countP_map, Function.comp_def]
  rw [gained, once]
  cases lives : session.hasEnded with
  | true =>
    have later := (h.perform_of_ended (m := m.recording) lives act.recorded).1
    rw [disposals_of_eq (later.trans lives.symm), later]
    rfl
  | false =>
    unfold disposals
    rw [lives]
    cases (session.perform m.recording act.recorded).hasEnded <;> rfl

end Disposal

end Session

namespace Chronicle

open Engine

variable {state pending : Type} {m : Engine state pending}

/-- Nothing is forgotten in a run. -/
theorem tends_run {chronicle : Chronicle state pending} (coherent : chronicle.session.Coherent)
    (acts : List (Session.Act state)) :
    chronicle.session.Tends (chronicle.run m acts).session :=
  run_induction (fun c => chronicle.session.Tends c.session)
    (fun _ act hc before => before.trans (hc.tends_perform act)) coherent (.refl _) acts

/-- A session in which such an act has happened has ended. -/
theorem hasEnded_run {chronicle : Chronicle state pending} (coherent : chronicle.session.Coherent)
    {acts : List (Session.Act state)} {act : Session.Act state} (member : act ∈ acts)
    (ends : act.ends = true) : (chronicle.run m acts).session.hasEnded = true := by
  obtain ⟨earlier, later, rfl⟩ := List.append_of_mem member
  have before := coherent_run (m := m) coherent earlier
  rw [run_append, run_cons]
  exact (run_of_ended (before.perform act) (before.hasEnded_of_ends ends) later).1

/-- The engine was disposed of once by the end, and not before. -/
theorem disposalCount_run {chronicle : Chronicle (Recorded state) (Nat × pending)}
    (coherent : chronicle.session.Coherent)
    (start : chronicle.session.disposalCount = chronicle.session.hasEnded.toNat)
    (acts : List (Session.Act state)) :
    (chronicle.run m.recording (acts.map Session.Act.recorded)).session.disposalCount =
      (chronicle.run m.recording (acts.map Session.Act.recorded)).session.hasEnded.toNat :=
  recorded_induction (fun c => c.session.disposalCount = c.session.hasEnded.toNat)
    (fun _ act hc before => hc.disposalCount_perform before act) coherent start acts

/-- In every run, between any two acts, the parts of the session agree on whether it has
ended: all of the teardown has run, or nothing of it. It has after the end of the input, a
fault, or giving the session up. If all has run, the engine was disposed of once, and
nothing is left of what the session took hold of at any time: of the subscriptions that it
began with, one for every kind of event, of the supervisors that it started, and of the
requests that it took in. -/
theorem torn_down_once (m : Engine state pending) (engine : state) (config : SessionConfig)
    (acts : List (Session.Act state)) :
    let session := (recorded m engine config acts).session
    session.Agrees session.hasEnded ∧ session.disposalCount = session.hasEnded.toNat ∧
      (∀ act ∈ acts, act.ends = true → session.hasEnded = true) ∧
      (recorded m engine config []).session.bridge.recorded.map Bridge.Record.kind =
        EventKind.all ∧
      (session.hasEnded = true → ∀ earlier, earlier <+: acts →
        (recorded m engine config earlier).session.Clears session) := by
  have coherent (acts : List (Session.Act state)) :
      (recorded m engine config acts).session.Coherent :=
    coherent_run_start m.recording ⟨engine, []⟩ config (acts.map Session.Act.recorded)
  have tended (acts : List (Session.Act state)) :
      (recorded m engine config acts).session.Tended :=
    (tends_run (.create (⟨engine, []⟩ : Recorded state) config)
      (acts.map Session.Act.recorded)).tended (.create _ config)
  refine ⟨(coherent acts).agrees (tended acts),
    disposalCount_run (.create (⟨engine, []⟩ : Recorded state) config) rfl acts,
    fun act member ends => ?_, (Bridge.booked_connect (⟨engine, []⟩ : Recorded state)).2, ?_⟩
  · exact hasEnded_run (.create (⟨engine, []⟩ : Recorded state) config)
      (List.mem_map_of_mem member) (act.ends_recorded.trans ends)
  · rintro ended earlier ⟨later, rfl⟩
    have since : (recorded m engine config earlier).session.Tends
        (recorded m engine config (earlier ++ later)).session := by
      rw [recorded, recorded, List.map_append, run_append]
      exact tends_run (coherent earlier) _
    exact since.clears (tended earlier) (coherent _) ended

/-- The handshake of a client whose process is watched, and a request for the hover text. -/
def Sample.watched : List (Session.Act Unit) :=
  [.receive ⟨0, fun _ => .ok true⟩
      (Sample.request "0" "initialize" "\x7b\"processId\":7,\"capabilities\":\x7b\x7d\x7d"),
    Sample.receive (Sample.notification "initialized"), Sample.hover "1"]

set_option maxRecDepth 2000 in
/-- A client whose process dies leaves a supervisor and a request behind; both are cleared
away, and the engine is disposed of. -/
theorem torn_down_once_at_death :
    let acts := Sample.watched
    let before := (recorded Engine.bare () ⟨2000, 1000⟩ acts).session
    let after := (recorded Engine.bare () ⟨2000, 1000⟩
      (acts ++ [.watch ⟨5000, fun _ => .ok false⟩ 0])).session
    (before.hasEnded = false ∧ before.bridge.supervisors.length = 1 ∧
      before.registry.handles.length = 1) ∧
      after.hasEnded = true ∧ after.disposalCount = 1 ∧ before.Clears after := by
  have lives : (recorded Engine.bare () ⟨2000, 1000⟩ Sample.watched).session.hasEnded = false ∧
      (recorded Engine.bare () ⟨2000, 1000⟩ Sample.watched).session.bridge.supervisors.length = 1 ∧
      (recorded Engine.bare () ⟨2000, 1000⟩
        Sample.watched).session.registry.handles.length = 1 := by
    decide +kernel
  have ended : (recorded Engine.bare () ⟨2000, 1000⟩
      (Sample.watched ++ [.watch ⟨5000, fun _ => .ok false⟩ 0])).session.hasEnded = true := by
    decide +kernel
  obtain ⟨-, once, -, -, clears⟩ := torn_down_once Engine.bare () ⟨2000, 1000⟩
    (Sample.watched ++ [.watch ⟨5000, fun _ => .ok false⟩ 0])
  refine ⟨lives, ended, ?_, clears ended _ (List.prefix_append _ _)⟩
  rw [once, ended]
  rfl

end Chronicle

end LspGateway
