import LspGateway.Proofs.Session.Ending
import LspGateway.Proofs.Session.Steps

/-!
# Departure

A session departs once it has ended, and also while the engine is still at the exit: either
way no further message is handled. The exit makes a session depart, whatever the engine makes
of it, and no act brings back a session that departs.
-/

namespace LspGateway.Session

variable {state pending : Type}

/-- The session has ended, or the engine is at the exit. -/
def Departs (session : Session state pending) : Prop :=
  session.hasEnded = true ∨ ∃ call, session.turn = some ⟨.exit, call⟩

section Acts

variable {m : Engine state pending} {session : Session state pending}

/-- Reports and forwarded events do not matter to it. -/
theorem Departs.alike {told : Session state pending} (h : session.Departs)
    (alike : session.Alike told) : told.Departs :=
  h.imp alike.hasEnded.trans fun ⟨call, waits⟩ => ⟨call, alike.turn.trans waits⟩

/-- A session that departs and lasts has nothing but the exit at the engine. -/
theorem Departs.duty (h : session.Departs) (lives : session.hasEnded = false)
    {turn : Turn pending} (waits : session.turn = some turn) : turn.duty = .exit := by
  rcases h with ended | ⟨call, leaving⟩
  · exact absurd (lives.symm.trans ended) (by simp)
  · rw [Option.some.inj (waits.symm.trans leaving)]

/-- A session that departs and has no message at the engine has ended. -/
theorem Departs.hasEnded (h : session.Departs) (idle : session.turn = none) :
    session.hasEnded = true :=
  h.resolve_right fun ⟨_, waits⟩ => absurd (idle.symm.trans waits) (by simp)

/-- Whatever the engine makes of the exit, the session departs. -/
theorem Continued.departs {answer : state × Engine.Turn pending} {after : Session state pending}
    (hc : Continued m session .exit answer after) : after.Departs := by
  cases hc with
  | waits call progress alike => exact .inr ⟨call, alike.turn⟩
  | ends outcome progress alike concluded =>
    cases concluded with
    | answered id answer asker alike => exact absurd asker (by simp [Duty.asker?])
    | seen asker stays alike => exact absurd rfl stays
    | left leaves alike => exact .inl (ended_terminate m _ .exit)

/-- A session that departs goes on doing so. -/
theorem Coherent.departs_perform (h : session.Coherent) (departs : session.Departs)
    (act : Act state) : (session.perform m act).Departs := by
  cases ended : session.hasEnded with
  | true => exact .inl (h.perform_of_ended ended act).1
  | false =>
    have performed : Performed m session act (session.perform m act) := perform_performed h act
    generalize session.perform m act = after at performed ⊢
    cases performed with
    | quiet unread kept others alike => exact departs.alike alike
    | handled world payload lives idle hu =>
      exact absurd (lives.symm.trans (departs.hasEnded idle)) (by simp)
    | resumed turn lives waits hc =>
      rw [departs.duty lives waits] at hc
      exact hc.departs
    | worked ticket hw =>
      obtain ⟨call, waits⟩ := departs.resolve_left (by simp [ended])
      exact .inr ⟨call, hw.turn.trans waits⟩
    | stirred change => exact departs
    | taken => exact departs
    | dropped closed => exact departs
    | @ended _ told ending turn unread kept others cut alike =>
      exact .inl (ended_terminate m told ending)

/-- A session that receives the exit departs. -/
theorem Coherent.departs_handleFrame (h : session.Coherent) (world : World) {payload : Bytes}
    {params : Json}
    (decodes : Incoming.decode payload = .ok (.notification "exit" params)) :
    (session.handleFrame m world payload).2.Departs := by
  have handled : session.handleFrame m world payload = session.leave m := by
    unfold handleFrame
    rw [decodes]
    rfl
  rw [handled, leave]
  split
  · exact .inl (ended_terminate m _ .exit)
  · exact Continued.departs ((h.alike (.report session _)).asked .exit _)

/-- Nothing but a frame and the engine moves the message that waits, except when the session
ends. -/
theorem Coherent.turn_perform_or_ended (h : session.Coherent) {act : Act state}
    (unread : ∀ world payload, act ≠ .receive world payload) (other : act ≠ .resume) :
    (session.perform m act).turn = session.turn ∨ (session.perform m act).hasEnded = true := by
  have performed : Performed m session act (session.perform m act) := perform_performed h act
  generalize session.perform m act = after at performed ⊢
  cases performed with
  | quiet none kept others alike => exact .inl alike.turn
  | handled world payload lives idle hu => exact absurd rfl (unread world payload)
  | resumed turn lives waits hc => exact absurd rfl other
  | worked ticket hw => exact .inl hw.turn
  | stirred change => exact .inl rfl
  | taken => exact .inl rfl
  | dropped closed => exact .inl rfl
  | @ended _ told ending turn none kept others cut alike =>
    exact .inr (ended_terminate m told ending)

/-- No step changes the settings. -/
theorem Step.config {after : Session state pending} (step : Step m session after) :
    after.config = session.config := by
  cases step with
  | told alike => exact alike.config
  | ended coherent ending =>
    cases lives : session.hasEnded with
    | true => rw [terminate_of_exited m session ending (by simpa [Session.hasEnded] using lives)]
    | false => exact (alike_terminate m lives ending).config
  | _ => rfl

/-- So no act does. -/
theorem Coherent.config_perform (h : session.Coherent) (act : Act state) :
    (session.perform m act).config = session.config :=
  @Steps.lift state pending m session _ (fun before after => after.config = before.config)
    (fun _ => rfl) (fun first second => second.trans first) Step.config (h.steps_perform act)

end Acts

end LspGateway.Session
