import LspGateway.Proofs.Session.Calls
import LspGateway.Proofs.Session.Steps

/-!
# The engine is asked in order

In every run, whatever is received, whatever the engine answers and however the
session ends, the calls that are not for features are a course: no call comes
before one that it presupposes, and none comes after the disposal. Each call for a
feature has a frame of its own that asked for it, and the frame was received while
the session was initialized; the engine had seen the confirmation through by then,
and no shutdown was accepted before.
-/

namespace LspGateway

namespace Session

open Engine

variable {state pending : Type}

/-! ## The request for the shutdown -/

section Requested

variable {m : Engine state pending} {session : Session state pending}

/-- A shutdown that was asked for remains asked for when a duty begins. -/
theorem Duty.Starts.shutdownRequested {duty : Duty} {before after : Lifecycle}
    (h : duty.Starts before after) (requested : before.shutdownRequested = true) :
    after.shutdownRequested = true := by
  have hinv := h.inv
  cases duty with
  | opening id => rw [hinv.2, ← requested]
  | confirmation => rw [hinv.2, ← requested]
  | shutdown id => rw [hinv.2]
  | exit => rw [show after = before from hinv, requested]
  | notice notice => rw [hinv.2, requested]

/-- No duty takes the shutdown back. -/
theorem Duty.shutdownRequested_settle (duty : Duty) (outcome : Engine.Outcome)
    (lifecycle : Lifecycle) :
    (duty.settle outcome lifecycle).shutdownRequested = lifecycle.shutdownRequested := by
  have habort : lifecycle.abortHandshake.shutdownRequested = lifecycle.shutdownRequested := by
    unfold Lifecycle.abortHandshake
    split <;> rfl
  cases duty <;> cases outcome <;> first | rfl | exact habort

/-- The end does not take the shutdown back. -/
theorem shutdownRequested_terminate (m : Engine state pending) (session : Session state pending)
    (ending : Ending) : (session.terminate m ending).lifecycle.shutdownRequested =
      session.lifecycle.shutdownRequested := by
  unfold terminate
  split
  · rfl
  · next next hnext =>
    unfold Lifecycle.terminate? at hnext
    split at hnext
    · exact absurd hnext (by simp)
    · rw [← Option.some.inj hnext]
      rfl

/-- No step takes the shutdown back. -/
theorem Step.shutdownRequested {after : Session state pending} (step : Step m session after)
    (requested : session.lifecycle.shutdownRequested = true) :
    after.lifecycle.shutdownRequested = true := by
  cases step with
  | told alike => rw [alike.lifecycle, requested]
  | started duty next lives starts => exact starts.shutdownRequested requested
  | settled duty outcome fits =>
    rw [← requested]
    exact duty.shutdownRequested_settle outcome session.lifecycle
  | ended coherent ending => rw [shutdownRequested_terminate, requested]
  | _ => exact requested

/-- A shutdown that was asked for remains asked for. -/
theorem Coherent.shutdownRequested_perform (h : session.Coherent) (act : Act state)
    (requested : session.lifecycle.shutdownRequested = true) :
    (session.perform m act).lifecycle.shutdownRequested = true :=
  (h.steps_perform act).lift (fun _ told => told) (fun first second told => second (first told))
    Step.shutdownRequested requested

/-- A frame that asks for a call was received while the session was initialized. -/
theorem Receipt.phase_of_call? {receipt : Receipt state pending} (h : receipt.call? ≠ none) :
    receipt.found.lifecycle.phase = .initialized := by
  by_contra hphase
  refine h ?_
  unfold Receipt.call?
  simp only [if_neg hphase]
  split
  · split <;> rfl
  · rfl

end Requested

end Session

namespace Chronicle

open Engine

variable {state pending : Type}

/-! ## Runs with a record -/

/-- A run of a new session whose engine keeps a record. -/
def recorded (m : Engine state pending) (engine : state) (config : SessionConfig)
    (acts : List (Session.Act state)) : Chronicle (Recorded state) (Nat × pending) :=
  (start ⟨engine, []⟩ config).run m.recording (acts.map Session.Act.recorded)

section Recorded

variable {m : Engine state pending} {chronicle : Chronicle (Recorded state) (Nat × pending)}

/-- Whatever every act keeps as long as the session is coherent holds after every
run whose engine keeps a record. -/
theorem recorded_induction (kept : Chronicle (Recorded state) (Nat × pending) → Prop)
    (step : ∀ c (act : Session.Act state), c.session.Coherent → kept c →
      kept (c.perform m.recording act.recorded))
    (coherent : chronicle.session.Coherent) (start : kept chronicle)
    (acts : List (Session.Act state)) :
    kept (chronicle.run m.recording (acts.map Session.Act.recorded)) := by
  induction acts generalizing chronicle with
  | nil => exact start
  | cons act rest ih =>
    exact ih (coherent.perform act.recorded) (step chronicle act coherent start)

end Recorded

/-! ## Calls and frames -/

/-- The calls for features that began, or are still to begin, belong to frames that
were received in the phase for them. -/
structure Bound (chronicle : Chronicle (Recorded state) (Nat × pending)) : Prop where
  /-- The record agrees with the session. -/
  orderly : chronicle.session.Orderly
  /-- Each call has a frame of its own. -/
  framed : (chronicle.session.features ++ chronicle.session.upcoming).Subperm
    (chronicle.receipts.filterMap Session.Receipt.call?)
  /-- No frame that asks for a call comes after the shutdown. -/
  early : ∀ receipt ∈ chronicle.receipts, receipt.call? ≠ none →
    receipt.found.lifecycle.shutdownRequested = false

/-- A chronicle of a session that has seen no message. -/
theorem Bound.start (engine : state) (config : SessionConfig) :
    (start ⟨engine, []⟩ config : Chronicle (Recorded state) (Nat × pending)).Bound :=
  ⟨.create engine config, .refl _, fun _ hr => absurd hr List.not_mem_nil⟩

section Steps

variable {m : Engine state pending} {chronicle : Chronicle (Recorded state) (Nat × pending)}

/-- Every act keeps the calls bound to frames. -/
theorem Bound.perform (h : chronicle.Bound) (coherent : chronicle.session.Coherent)
    (act : Session.Act state) : (chronicle.perform m.recording act.recorded).Bound := by
  refine ⟨h.orderly.perform coherent act, ?_, fun receipt hr asks => ?_⟩
  · have step := coherent.upcoming_perform (m := m.recording) act.recorded
    have begun := coherent.features_perform (m := m) act
    change ((chronicle.session.perform m.recording act.recorded).features ++
      (chronicle.session.perform m.recording act.recorded).upcoming).Subperm
        ((chronicle.receipts ++ chronicle.session.received act.recorded).filterMap
          Session.Receipt.call?)
    rw [begun, List.append_assoc, List.filterMap_append]
    refine ((List.subperm_append_left chronicle.session.features).mpr step).trans ?_
    rw [← List.append_assoc]
    exact (List.subperm_append_right _).mpr h.framed
  · rcases List.mem_append.mp hr with hold | hnew
    · exact h.early receipt hold asks
    · have hphase := Session.Receipt.phase_of_call? asks
      rw [Session.found_of_mem_received hnew] at hphase ⊢
      refine Bool.eq_false_iff.mpr fun requested => ?_
      rcases h.orderly.requested requested with hp | hp <;> simp [hphase] at hp

/-- A call for a feature begins only once the engine has seen the confirmation
through. -/
theorem Bound.confirmed (h : chronicle.Bound) (coherent : chronicle.session.Coherent)
    (act : Session.Act state)
    (begins : (chronicle.perform m.recording act.recorded).session.features ≠
      chronicle.session.features) : Confirmed chronicle.session.record := by
  have gained := coherent.features_perform (m := m) act
  refine h.orderly.known fun idle => begins ?_
  -- Without tasks there is none that begins a call.
  have hnone : chronicle.session.begins? act.recorded = none := by
    cases act with
    | work ticket => simp [Session.Act.recorded, Session.begins?, Session.task?, idle]
    | _ => rfl
  refine gained.trans ?_
  rw [hnone]
  exact List.append_nil _

/-- Once a shutdown was asked for, no frame asks for a call. -/
theorem Bound.closed (h : chronicle.Bound) (coherent : chronicle.session.Coherent)
    (requested : chronicle.session.lifecycle.shutdownRequested = true)
    (acts : List (Session.Act state)) :
    (chronicle.run m.recording (acts.map Session.Act.recorded)).receipts.filterMap
      Session.Receipt.call? = chronicle.receipts.filterMap Session.Receipt.call? := by
  refine (recorded_induction (fun c => c.Bound ∧
    c.session.lifecycle.shutdownRequested = true ∧
    c.receipts.filterMap Session.Receipt.call? =
      chronicle.receipts.filterMap Session.Receipt.call?) ?_ coherent ⟨h, requested, rfl⟩ acts).2.2
  rintro c act hc ⟨bound, asked, same⟩
  have later := bound.perform (m := m) hc act
  refine ⟨later, hc.shutdownRequested_perform act.recorded asked, ?_⟩
  have hnone : (c.session.received act.recorded).filterMap Session.Receipt.call? = [] := by
    refine List.filterMap_eq_nil_iff.mpr fun receipt hr => ?_
    by_contra asks
    have early := later.early receipt (List.mem_append_right _ hr) asks
    rw [Session.found_of_mem_received hr, asked] at early
    exact Bool.noConfusion early
  change (c.receipts ++ c.session.received act.recorded).filterMap Session.Receipt.call? = _
  rw [List.filterMap_append, hnone, List.append_nil, same]

end Steps

/-! ## Discipline -/

/-- The engine of a chronicle is asked in order. -/
structure Disciplined (m : Engine state pending)
    (chronicle : Chronicle (Recorded state) (Nat × pending)) : Prop where
  /-- The calls that are not for features are a course. -/
  course : word chronicle.session.record ∈ wholeCourse
  /-- Each call for a feature has a frame of its own, which asked for it and was
  received while the session was initialized. -/
  framed : chronicle.session.features.Subperm (chronicle.receipts.filterMap Session.Receipt.call?)
  /-- These frames were received while the session was initialized, and before any
  shutdown was accepted. -/
  received : ∀ receipt ∈ chronicle.receipts, receipt.call? ≠ none →
    receipt.found.lifecycle.phase = .initialized ∧
      receipt.found.lifecycle.shutdownRequested = false
  /-- A call for a feature begins only once the engine has seen the confirmation
  through. -/
  confirmed : ∀ act : Session.Act state,
    (chronicle.perform m.recording act.recorded).session.features ≠ chronicle.session.features →
      Confirmed chronicle.session.record
  /-- Once a shutdown was accepted, no frame that is received asks for a call. -/
  closed : chronicle.session.lifecycle.shutdownRequested = true →
    ∀ acts : List (Session.Act state),
      (chronicle.run m.recording (acts.map Session.Act.recorded)).receipts.filterMap
        Session.Receipt.call? = chronicle.receipts.filterMap Session.Receipt.call?

/-- In every run the engine is asked in order. -/
theorem disciplined_recorded (m : Engine state pending) (engine : state) (config : SessionConfig)
    (acts : List (Session.Act state)) : (recorded m engine config acts).Disciplined m := by
  have coherent : (recorded m engine config acts).session.Coherent :=
    coherent_run_start m.recording ⟨engine, []⟩ config (acts.map Session.Act.recorded)
  have bound : (recorded m engine config acts).Bound :=
    recorded_induction Bound (fun _ act hc h => h.perform hc act) (.create _ config)
      (.start engine config) acts
  generalize recorded m engine config acts = chronicle at coherent bound
  refine ⟨?_, ?_, fun receipt hr asks => ?_, bound.confirmed coherent, bound.closed coherent⟩
  · cases hs : chronicle.session.hasEnded with
    | true => exact bound.orderly.ended hs
    | false => exact mem_wholeCourse (bound.orderly.tells hs).word_mem
  · exact (List.sublist_append_left _ _).subperm.trans bound.framed
  · exact ⟨Session.Receipt.phase_of_call? asks, bound.early receipt hr asks⟩

end Chronicle

end LspGateway
