import LspGateway.Proofs.Service.Acts
import LspGateway.Proofs.Session.Departure

/-!
# What goes on beside the input

Only the one who reads looks at the input of a service, and only to read the next frame. All
else that is done to a service comes to the same in front of any other input, which it leaves
as it is. Nor does it take the reader out of the queue or move the message that waits.
-/

namespace LspGateway.Service

variable {state pending : Type}

/-- The same service in front of another input. -/
def withInput (service : Service state pending) (input : Input) : Service state pending :=
  { service with input := input }

section Input

variable (m : Engine state pending) (service : Service state pending) (input : Input)

/-- The input is the other one. -/
@[simp] theorem input_withInput : (service.withInput input).input = input := rfl

/-- The session is the same. -/
@[simp] theorem session_withInput : (service.withInput input).session = service.session := rfl

/-- So is the phase. -/
@[simp] theorem phase_withInput : (service.withInput input).phase = service.phase := rfl

/-- So is the writing. -/
@[simp] theorem writing_withInput : (service.withInput input).writing = service.writing := rfl

/-- So is what goes to the client. -/
@[simp] theorem sink_withInput : (service.withInput input).sink = service.sink := rfl

/-- So is the queue. -/
@[simp] theorem queue_withInput : (service.withInput input).queue = service.queue := rfl

/-- So are those who are told of a cancellation. -/
@[simp] theorem listening_withInput :
    (service.withInput input).listening = service.listening := rfl

/-- So is the world. -/
@[simp] theorem world_withInput : (service.withInput input).world = service.world := rfl

/-- The last input counts. -/
theorem withInput_withInput (other : Input) :
    (service.withInput input).withInput other = service.withInput other := rfl

/-! ## The queue and the session -/

/-- Waking a job. -/
theorem wake_withInput (job : Job) :
    (service.withInput input).wake job = (service.wake job).withInput input := by
  unfold wake
  rw [queue_withInput]
  split <;> rfl

/-- Waking jobs. -/
theorem wakeAll_withInput (jobs : List Job) :
    (service.withInput input).wakeAll jobs = (service.wakeAll jobs).withInput input := by
  induction jobs generalizing service with
  | nil => rfl
  | cons job rest ih =>
    change ((service.withInput input).wake job).wakeAll rest = _
    rw [wake_withInput, ih]
    rfl

/-- Taking up a change of the session. -/
theorem follow_withInput (after : Session state pending) :
    (service.withInput input).follow after = (service.follow after).withInput input := by
  unfold follow
  dsimp only
  rw [← wakeAll_withInput]
  rfl

/-- The end of a service. -/
theorem finish_withInput :
    (service.withInput input).finish = service.finish.withInput input := by
  unfold finish
  rw [writing_withInput]
  split <;> rfl

/-- Reading no more. -/
theorem close_withInput : (service.withInput input).close m = (service.close m).withInput input := by
  unfold close
  rw [← finish_withInput, session_withInput, follow_withInput]
  rfl

/-- Beginning. -/
theorem begin_withInput : (service.withInput input).begin = service.begin.withInput input := by
  have woken := wake_withInput { service with
    session := service.session.report [startedEntry]
    phase := .reading
    writing := .running } input .writing
  exact congrArg (listen · .serving) woken

/-! ## Messages -/

/-- What became of a message is taken up. -/
theorem settleMessage_withInput (result : Session.Flow × Session state pending) :
    (service.withInput input).settleMessage m result =
      ((service.settleMessage m result).1,
        (service.settleMessage m result).2.withInput input) := by
  unfold settleMessage
  dsimp only
  rw [follow_withInput]
  split
  · rw [close_withInput]
  · rfl

/-- The message that waits goes on. -/
theorem resumeMessage_withInput :
    (service.withInput input).resumeMessage m =
      ((service.resumeMessage m).1, (service.resumeMessage m).2.withInput input) := by
  unfold resumeMessage
  rw [close_withInput, session_withInput]
  dsimp only
  rw [follow_withInput, settleMessage_withInput]
  split
  · rfl
  · split
    · rfl
    · split <;> rfl

/-! ## The other jobs -/

/-- Writing no more. -/
theorem closeWriting_withInput :
    (service.withInput input).closeWriting = service.closeWriting.withInput input := by
  unfold closeWriting
  dsimp only
  rw [sink_withInput, session_withInput, phase_withInput]
  split
  · rw [← wake_withInput]
    rfl
  · rfl

/-- The turn of the one who writes. -/
theorem turnWriting_withInput :
    (service.withInput input).turnWriting m = (service.turnWriting m).withInput input := by
  unfold turnWriting
  rw [writing_withInput]
  split
  · rfl
  · dsimp only
    rw [session_withInput, sink_withInput]
    split
    · rw [← closeWriting_withInput, ← follow_withInput]
      rfl
    · split
      · rfl
      · rw [← closeWriting_withInput]
        rfl

/-- The turn of a request. -/
theorem turnRequest_withInput (ticket : Nat) :
    (service.withInput input).turnRequest m ticket =
      (service.turnRequest m ticket).withInput input :=
  follow_withInput service input _

/-- The turn of a supervisor. -/
theorem turnSupervising_withInput (number : Nat) :
    (service.withInput input).turnSupervising m number =
      (service.turnSupervising m number).withInput input := by
  unfold turnSupervising
  dsimp only
  rw [session_withInput, world_withInput, follow_withInput, session_withInput,
    listening_withInput]
  split <;> rfl

/-! ## Commands -/

/-- An event is published. -/
theorem emit_withInput (event : Event) :
    ((service.withInput input).emit m event).2 = (service.emit m event).2.withInput input :=
  follow_withInput service input _

/-- The engine changes. -/
theorem stir_withInput (change : state → state) :
    (service.withInput input).stir change = (service.stir change).withInput input := by
  unfold stir
  rw [← wakeAll_withInput]
  rfl

/-- The service is given up. -/
theorem abandon_withInput :
    (service.withInput input).abandon m = (service.abandon m).withInput input := by
  unfold abandon
  rw [phase_withInput, session_withInput, follow_withInput]
  split <;> rfl

end Input

/-! ## The reader -/

/-- What leaves the reader in the queue and the message that waits where they are, unless the
session ends. -/
structure Spares (service after : Service state pending) : Prop where
  /-- No job leaves the queue. -/
  queued : ∀ job ∈ service.queue, job ∈ after.queue
  /-- Nobody begins to read. -/
  reading : after.phase = .reading → service.phase = .reading
  /-- The message that waits does so still. -/
  turn : after.session.turn = service.session.turn ∨ after.session.hasEnded = true

section Reader

variable {m : Engine state pending} {service : Service state pending}

/-- Waking a job takes none out of the queue. -/
theorem queued_wake (service : Service state pending) (woken : Job) {job : Job}
    (queued : job ∈ service.queue) : job ∈ (service.wake woken).queue := by
  unfold wake
  split
  · exact queued
  · exact List.mem_append_left _ queued

/-- Nor does waking several. -/
theorem queued_wakeAll (service : Service state pending) (jobs : List Job) {job : Job}
    (queued : job ∈ service.queue) : job ∈ (service.wakeAll jobs).queue := by
  induction jobs generalizing service with
  | nil => exact queued
  | cons woken rest ih => exact ih (service.wake woken) (queued_wake service woken queued)

/-- Nor does taking up a change of the session. -/
theorem queued_follow (service : Service state pending) (after : Session state pending)
    {job : Job} (queued : job ∈ service.queue) : job ∈ (service.follow after).queue :=
  queued_wakeAll _ _ queued

/-- Nor does writing no more. -/
theorem queued_closeWriting (service : Service state pending) {job : Job}
    (queued : job ∈ service.queue) : job ∈ service.closeWriting.queue := by
  unfold closeWriting
  dsimp only
  split
  · exact queued_wake _ _ queued
  · exact queued

/-- Nothing has happened. -/
theorem Spares.refl (service : Service state pending) : Spares service service :=
  ⟨fun _ => id, id, .inl rfl⟩

section After

variable {after : Service state pending} (h : Spares service after)
include h

/-- Waking jobs. -/
theorem Spares.wakeAll (jobs : List Job) : Spares service (after.wakeAll jobs) := by
  obtain ⟨queue, hqueue⟩ := wakeAll_eq after jobs
  refine ⟨fun job queued => queued_wakeAll after jobs (h.queued job queued), ?_, ?_⟩
  · rw [hqueue]
    exact h.reading
  · rw [hqueue]
    exact h.turn

/-- Listening. -/
theorem Spares.listen (job : Job) : Spares service (after.listen job) :=
  ⟨h.queued, h.reading, h.turn⟩

/-- Taking up a change of the session. -/
theorem Spares.follow {session : Session state pending}
    (turn : session.turn = service.session.turn ∨ session.hasEnded = true) :
    Spares service (after.follow session) := by
  obtain ⟨queue, waiting, cancellable, listening, hfollow⟩ := follow_eq after session
  refine ⟨fun job queued => queued_follow after session (h.queued job queued), ?_, ?_⟩
  · rw [hfollow]
    exact h.reading
  · rw [hfollow]
    exact turn

/-- Writing no more. -/
theorem Spares.closeWriting : Spares service after.closeWriting := by
  obtain ⟨entries, queue, hclose⟩ := Served.closeWriting_eq after
  refine ⟨fun job queued => queued_closeWriting after (h.queued job queued), ?_, ?_⟩
  · rw [hclose]
    exact h.reading
  · rw [hclose]
    exact h.turn

end After

/-- An act that neither handles a frame nor goes on with the message that waits. -/
theorem spares_act (h : service.session.Coherent) {act : Session.Act state}
    (unread : ∀ world payload, act ≠ .receive world payload) (other : act ≠ .resume) :
    Spares service (service.follow (service.session.perform m act)) :=
  (Spares.refl service).follow (h.turn_perform_or_ended unread other)

/-- The turn of the one who writes. -/
theorem spares_turnWriting (service : Service state pending) :
    Spares service (service.turnWriting m) := by
  have taken (outbound : Outbound) (sink : Sink) : Spares service
      { service with session := service.session.withOutbound outbound, sink := sink } :=
    ⟨fun _ => id, id, .inl rfl⟩
  unfold turnWriting
  dsimp only
  split
  · exact .refl service
  · split
    · exact ((taken _ _).follow (.inr (Session.ended_terminate m _ _))).closeWriting
    · split
      · exact taken _ _
      · exact (taken _ _).closeWriting

/-- The turn of a supervisor. -/
theorem spares_turnSupervising (h : service.session.Coherent) (number : Nat) :
    Spares service (service.turnSupervising m number) := by
  have spares : Spares service (service.follow (service.session.perform m
    (.watch service.world number))) := spares_act h nofun nofun
  unfold turnSupervising
  dsimp only
  split
  · exact spares.listen _
  · exact spares

/-- The engine changes. -/
theorem spares_stir (service : Service state pending) (change : state → state) :
    Spares service (service.stir change) := by
  have stirred : Spares service
      { service with session := service.session.withEngine (change service.session.bridge.engine) } :=
    ⟨fun _ => id, id, .inl rfl⟩
  exact stirred.wakeAll service.waiting

/-- The service is given up. -/
theorem spares_abandon (service : Service state pending) :
    Spares service (service.abandon m) := by
  have ended : (service.session.perform m .close).hasEnded = true :=
    Session.ended_terminate m _ _
  have followed := (Spares.refl service).follow (.inr ended)
  unfold abandon
  split
  · exact .refl service
  · exact .refl service
  · exact ⟨followed.queued, nofun, followed.turn⟩

end Reader

end LspGateway.Service
