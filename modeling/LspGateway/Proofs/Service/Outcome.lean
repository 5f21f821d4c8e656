import LspGateway.Engine.Bare
import LspGateway.Proofs.Service.Acts

/-!
# What a service says of its end

A service that returns tells how its session ended. Whatever happened in which order, and
however many reasons to end came up before it returned, it tells the first of them, and
that the client left as it should exactly if this was the exit and a request for the
shutdown had been received before in the phase for it.
-/

namespace LspGateway

namespace Service

variable {state pending : Type}

/-- What a service says of its end, held against the acts of its session. -/
structure Announces (m : Engine state pending) (origin : Chronicle state pending)
    (acts : List (Session.Act state)) (service : Service state pending) : Prop where
  /-- The acts have led to the session. -/
  session : service.session = (origin.run m acts).session
  /-- Nobody reads any more only once the session has ended. -/
  closing : service.phase = .closing → service.session.hasEnded = true
  /-- What is said at the end holds of the session. -/
  returned : ∀ outcome, service.phase = .finished outcome →
    service.session.hasEnded = true ∧ service.session.outcome = outcome
  /-- Unless the service is given up, reading is not cut off before the end. -/
  uncut : service.phase ≠ .abandoned → ∀ earlier later, acts = earlier ++ .close :: later →
    (origin.run m earlier).session.hasEnded = true

section Steps

variable {m : Engine state pending} {service after : Service state pending}
  {acts more : List (Session.Act state)} {origin : Chronicle state pending}

/-- Something that has happened in the course of two runs has happened in one of them. -/
theorem split_append {α : Type} {first second earlier later : List α} {item : α}
    (h : first ++ second = earlier ++ item :: later) :
    (∃ rest, first = earlier ++ item :: rest) ∨
      ∃ rest, earlier = first ++ rest ∧ second = rest ++ item :: later := by
  rcases List.append_eq_append_iff.mp h with ⟨rest, hearlier, hsecond⟩ | ⟨rest, hfirst, hlater⟩
  · exact .inr ⟨rest, hearlier, hsecond⟩
  · cases rest with
    | nil =>
      rw [List.append_nil] at hfirst
      exact .inr ⟨[], by rw [hfirst, List.append_nil], hlater.symm⟩
    | cons head rest =>
      obtain ⟨rfl, -⟩ := List.cons.inj hlater
      exact .inl ⟨rest, hfirst⟩

/-- A step that leaves the phase keeps to what is said of it. -/
theorem Announces.still (h : Announces m origin acts service)
    (coherent : (origin.run m acts).session.Coherent)
    (session : after.session = (origin.run m (acts ++ more)).session)
    (phase : after.phase = service.phase) (uncut : .close ∉ more) :
    Announces m origin (acts ++ more) after := by
  have lifecycle (ended : service.session.hasEnded = true) :
      after.session.lifecycle = service.session.lifecycle := by
    rw [h.session] at ended ⊢
    rw [session, Chronicle.run_append, Chronicle.lifecycle_run_of_ended coherent ended more]
  have ended (before : service.session.hasEnded = true) : after.session.hasEnded = true := by
    unfold Session.hasEnded at before ⊢
    rw [lifecycle before, before]
  refine ⟨session, fun closing => ?_, fun outcome returned => ?_,
    fun open_ earlier later hacts => ?_⟩
  · exact ended (h.closing (phase.symm.trans closing))
  · obtain ⟨before, said⟩ := h.returned outcome (phase.symm.trans returned)
    refine ⟨ended before, ?_⟩
    unfold Session.outcome at said ⊢
    rw [lifecycle before, said]
  · rcases split_append hacts with ⟨rest, sooner⟩ | ⟨rest, -, hmore⟩
    · exact h.uncut (phase ▸ open_) earlier rest sooner
    · exact absurd (hmore ▸ List.mem_append_right rest List.mem_cons_self) uncut

/-- Every step keeps to what is said of the end. -/
theorem Announces.step (h : Announces m origin acts service)
    (coherent : (origin.run m acts).session.Coherent) (step : Step m service more after) :
    Announces m origin (acts ++ more) after := by
  have session : after.session = (origin.run m (acts ++ more)).session := by
    rw [step.session, h.session, Chronicle.run_append, Chronicle.session_run m (origin.run m acts)]
  have earlier (open_ : service.phase ≠ .abandoned) {act : Session.Act state}
      (cut : act = .close → service.session.hasEnded = true)
      (sooner later : List (Session.Act state))
      (hacts : acts ++ [act] = sooner ++ .close :: later) :
      (origin.run m sooner).session.hasEnded = true := by
    rcases split_append hacts with ⟨rest, before⟩ | ⟨rest, hsooner, hmore⟩
    · exact h.uncut open_ sooner rest before
    · cases rest with
      | nil =>
        obtain ⟨rfl, -⟩ := List.cons.inj hmore
        rw [hsooner, List.append_nil, ← h.session]
        exact cut rfl
      | cons head rest => exact absurd (congrArg List.length hmore) (by simp)
  cases step with
  | aside aside =>
    obtain ⟨-, phase, -⟩ := aside.same
    exact h.still coherent session phase List.not_mem_nil
  | begun unstarted =>
    exact ⟨session, nofun, nofun, fun _ => earlier (by simp [unstarted]) nofun⟩
  | acted act input due => exact h.still coherent session rfl (by cases due <;> simp)
  | wrote taken running written => exact h.still coherent session rfl (by simp)
  | failed taken fault entries running written => exact h.still coherent session rfl (by simp)
  | drained entries running ended empty => exact h.still coherent session rfl (by simp)
  | closed reading ended =>
    have coherent' : service.session.Coherent := h.session ▸ coherent
    exact ⟨session, fun _ => (coherent'.perform_of_ended ended .close).1, nofun,
      fun _ => earlier (by simp [reading]) fun _ => ended⟩
  | finished closing done =>
    refine ⟨session, nofun, fun outcome returned => ?_, fun _ => earlier (by simp [closing]) nofun⟩
    exact ⟨h.closing closing, (Phase.finished.inj returned)⟩
  | abandoned lasts => exact ⟨session, nofun, nofun, fun given => absurd rfl given⟩

/-- Whatever steps are taken, they keep to what is said of the end. -/
theorem Announces.leads {start : Service state pending} (h : Announces m origin [] start)
    (coherent : origin.session.Coherent) (leads : Leads m start acts service) :
    Announces m origin acts service := by
  induction leads with
  | refl => exact h
  | step leads step ih => exact ih.step (Chronicle.coherent_run coherent _) step

/-- A service that has returned has nothing else to say. -/
theorem Leads.phase_of_finished {outcome : Session.Outcome} (leads : Leads m service acts after)
    (returned : service.phase = .finished outcome) : after.phase = .finished outcome := by
  induction leads with
  | refl => exact returned
  | step leads step ih =>
    cases step with
    | aside aside => exact aside.same.2.1.trans ih
    | begun unstarted => exact absurd (ih.symm.trans unstarted) (by simp)
    | closed reading ended => exact absurd (ih.symm.trans reading) (by simp)
    | finished closing done => exact absurd (ih.symm.trans closing) (by simp)
    | abandoned lasts => exact absurd ih (lasts outcome)
    | _ => exact ih

end Steps

/-- What the outcome tells of a run: the reason of the act that was the first to bring one
about. -/
structure Tells (m : Engine state pending) (origin : Chronicle state pending)
    (outcome : Session.Outcome) (earlier : List (Session.Act state)) (act : Session.Act state) :
    Prop where
  /-- There was no reason before. -/
  first : origin.reason? m earlier = none
  /-- This one is told. -/
  reason : (origin.run m earlier).session.prompt? m act = some outcome.ending
  /-- It is none that was made up in order to end. -/
  genuine : act ≠ .close
  /-- The client left as it should if it left by the exit, and had asked for the shutdown in
  the phase for it before. -/
  clean : outcome.clean = true ↔ outcome.ending = .exit ∧
    ∃ receipt ∈ (origin.run m earlier).receipts, receipt.shutsDown = true
  /-- The exit code says the same. -/
  code : outcome.exitCode = 0 ↔ outcome.clean = true

/-- Whatever moves a service makes until it returns, its outcome is that of the first act
that brought about a reason to end, and it does not change any more. -/
theorem outcome_of_moves (m : Engine state pending) (engine : state) (config : SessionConfig)
    (sink : Sink) (probe : Nat → Except Supervisor.ProbeError Bool) (made : List (Move state))
    {outcome : Session.Outcome}
    (returned : ((create engine config sink probe).moves m made).phase = .finished outcome) :
    (∃ earlier act later,
      Leads m (create engine config sink probe) (earlier ++ act :: later)
        ((create engine config sink probe).moves m made) ∧
      Tells m (.start engine config) outcome earlier act) ∧
    ∀ more, (((create engine config sink probe).moves m made).moves m more).phase =
      .finished outcome := by
  have served := served_moves m engine config sink probe made
  generalize (create engine config sink probe).moves m made = service at served returned ⊢
  obtain ⟨acts, leads⟩ := served.leads
  let origin : Chronicle state pending := .start engine config
  have fresh : origin.session.Coherent := .create engine config
  have nothing : Announces m origin [] (create engine config sink probe) :=
    ⟨rfl, nofun, nofun, fun _ earlier later none => absurd none (by simp)⟩
  have announces : Announces m origin acts service := nothing.leads fresh leads
  obtain ⟨ended, said⟩ := announces.returned outcome returned
  refine ⟨?_, fun more => ?_⟩
  · have prompted := Chronicle.prompted_run (m := m) fresh rfl acts
    rw [← announces.session] at prompted
    obtain ⟨ending, hending⟩ := Option.isSome_iff_exists.mp (prompted.ended.symm.trans ended)
    obtain ⟨earlier, act, later, hacts, first, reason⟩ :=
      Chronicle.reason?_eq_some_iff.mp hending
    subst hacts
    have before := Chronicle.coherent_run (m := m) fresh earlier
    have lasting := Chronicle.prompted_run (m := m) fresh rfl earlier
    rw [first] at lasting
    have lives : (origin.run m earlier).session.hasEnded = false := lasting.ended
    have gone : ((origin.run m earlier).perform m act).session.hasEnded = true := by
      have here := before.prompted_perform (m := m) lives act
      rw [reason] at here
      exact here.ended
    -- From the end on the lifecycle stays.
    have lifecycle : service.session.lifecycle =
        ((origin.run m earlier).session.perform m act).lifecycle := by
      rw [announces.session, Chronicle.run_append, Chronicle.run_cons]
      exact Chronicle.lifecycle_run_of_ended (before.perform act) gone later
    have asked : service.session.lifecycle.shutdownRequested =
        (origin.run m earlier).receipts.any Session.Receipt.shutsDown := by
      rw [lifecycle, before.requested_perform, Session.unasked_of_prompt reason, Bool.or_false]
      exact Chronicle.requested_run m engine config earlier
    have told : outcome.ending = ending := by
      rw [← said, Session.outcome, prompted.ending, hending]
      rfl
    refine ⟨earlier, act, later, leads, first, told ▸ reason, ?_, ?_, ?_⟩
    · rintro rfl
      have cut := announces.uncut (by simp [returned]) earlier later rfl
      exact absurd (lives.symm.trans cut) (by simp)
    · have clean : outcome.clean = (ending == .exit &&
          (origin.run m earlier).receipts.any Session.Receipt.shutsDown) := by
        rw [← said, Session.outcome, prompted.ending, hending, asked]
        rfl
      rw [told, clean, Bool.and_eq_true, beq_iff_eq, List.any_eq_true]
    · simp [Session.Outcome.exitCode]
  · obtain ⟨further, onward⟩ := (served.renew.moves more).leads
    exact onward.phase_of_finished returned

/-- The input of a service ends within the label of a header line. -/
def Sample.cutWithinLabel : List (Move Unit) :=
  [.turn .serving, .given (.arrive (.data (Bytes.ofString "Content-Len"))), .given .endInput,
    .turn .serving, .turn .writing, .turn .serving]

set_option maxRecDepth 2000 in
/-- What has come in by then is no header, so that counts as a fault, and not as the end of
the input. -/
theorem outcome_of_moves_cut_within_label :
    let start := create () ⟨2000, 1000⟩ .unlimited fun _ => .ok false
    (start.moves Engine.bare Sample.cutWithinLabel).phase = .finished ⟨.transportFailed, false⟩ ∧
      ∃ earlier act later,
        Leads Engine.bare start (earlier ++ act :: later)
          (start.moves Engine.bare Sample.cutWithinLabel) ∧
        Tells Engine.bare (.start () ⟨2000, 1000⟩) ⟨.transportFailed, false⟩ earlier act := by
  have returned : ((create () ⟨2000, 1000⟩ .unlimited fun _ => .ok false).moves Engine.bare
      Sample.cutWithinLabel).phase = .finished ⟨.transportFailed, false⟩ := by
    decide +kernel
  exact ⟨returned, (outcome_of_moves Engine.bare () ⟨2000, 1000⟩ .unlimited _ _ returned).1⟩

end Service

end LspGateway
