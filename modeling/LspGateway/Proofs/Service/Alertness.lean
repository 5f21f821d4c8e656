import LspGateway.Proofs.Service.Deafness

/-!
# Whoever writes is woken

The one who writes has something to do when messages wait, and once more when the queue is
closed. Whatever gives it something to do puts it into the queue of jobs, and nothing but its own
turn takes it out again. So nothing waits for the client without the one who writes waiting for
its turn.
-/

namespace LspGateway.Service

variable {state pending : Type}

/-- Whether there is something to do for the one who writes: messages wait, or no more will
come. -/
def Presses (session : Session state pending) : Prop :=
  session.bridge.outbound.queued ≠ [] ∨ session.bridge.outbound.isOpen = false

/-- Whenever there is something to do for the one who writes, it waits for its turn. -/
def Alert (service : Service state pending) : Prop :=
  service.writing = .running → Presses service.session → .writing ∈ service.queue

/-- A job that is woken with others is in the queue. -/
theorem mem_queue_wakeAll (service : Service state pending) {jobs : List Job} {job : Job}
    (member : job ∈ jobs) : job ∈ (service.wakeAll jobs).queue := by
  induction jobs generalizing service with
  | nil => cases member
  | cons woken rest ih =>
    rcases List.mem_cons.mp member with rfl | later
    · exact queued_wakeAll (service.wake job) rest (mem_queue_wake service job)
    · exact ih (service.wake woken) later

namespace Alert

variable {m : Engine state pending} {service after : Service state pending}

/-! ## Changes of a service -/

/-- Nobody writes. -/
theorem of_not_running (idle : service.writing ≠ .running) : service.Alert :=
  fun running => absurd running idle

/-- What is to be written stays, and the one who writes stays in the queue. -/
theorem change (h : service.Alert)
    (outbound : after.session.bridge.outbound = service.session.bridge.outbound)
    (writing : after.writing = service.writing)
    (queued : .writing ∈ service.queue → .writing ∈ after.queue) : after.Alert := by
  intro running presses
  unfold Presses at presses
  rw [outbound] at presses
  exact queued (h (writing ▸ running) presses)

/-- A job is told of a cancellation. -/
theorem listen (h : service.Alert) (job : Job) : (service.listen job).Alert :=
  h.change rfl rfl id

/-- The service stands elsewhere. -/
theorem withPhase (h : service.Alert) (phase : Phase) :
    ({ service with phase := phase } : Service state pending).Alert :=
  h.change rfl rfl id

/-- The clock goes on, or processes begin or cease to be. -/
theorem withWorld (h : service.Alert) (world : Session.World) :
    ({ service with world := world } : Service state pending).Alert :=
  h.change rfl rfl id

/-- There is another input. -/
theorem withInput (h : service.Alert) (input : Input) : (service.withInput input).Alert :=
  h.change rfl rfl id

/-- Jobs are woken. -/
theorem wakeAll (h : service.Alert) (jobs : List Job) : (service.wakeAll jobs).Alert := by
  obtain ⟨queue, woken⟩ := wakeAll_eq service jobs
  refine h.change ?_ ?_ (queued_wakeAll service jobs)
  · rw [woken]
  · rw [woken]

/-- A change of the session is taken up. -/
theorem follow (h : service.Alert) (session : Session state pending) :
    (service.follow session).Alert := by
  obtain ⟨_, _, _, _, followed⟩ := follow_eq service session
  intro running presses
  have runs : service.writing = .running := by rwa [followed] at running
  have presses : Presses session := by rwa [followed] at presses
  by_cases output : hasOutput service.session session = true
  · refine mem_queue_wakeAll _ ?_
    simp [stirred, runs, output]
  · -- Nothing has become of it now, so that the queue was closed before.
    refine queued_follow service session (h runs (.inr ?_))
    simp only [hasOutput, Bool.or_eq_true, Bool.and_eq_true, Bool.not_eq_true', not_or,
      List.isEmpty_eq_false_iff, not_not, not_and, Bool.not_eq_false] at output
    rcases presses with waits | closed
    · exact absurd output.1 waits
    · refine Bool.eq_false_iff.mpr fun wasOpen => ?_
      exact absurd (output.2 wasOpen) (Bool.eq_false_iff.mp closed)

/-! ## Turns -/

/-- The service ends, if all is written. -/
theorem finish (h : service.Alert) : service.finish.Alert := by
  unfold Service.finish
  split
  · exact h.change rfl rfl id
  · exact h

/-- The service reads no more. -/
theorem close (h : service.Alert) : (service.close m).Alert := by
  have followed := h.follow ({ service.session with turn := none }.terminate m .transportClosed)
  exact (followed.withPhase .closing).finish

/-- A message was handled. -/
theorem settleMessage (h : service.Alert) (result : Session.Flow × Session state pending) :
    (service.settleMessage m result).2.Alert := by
  have followed := h.follow result.2
  unfold Service.settleMessage
  dsimp only
  split
  · dsimp only
    exact followed.close
  · dsimp only
    exact followed.listen .serving

/-- The next message is handled. -/
theorem readMessage (h : service.Alert) : (service.readMessage m).2.Alert := by
  unfold Service.readMessage
  split
  · dsimp only
    exact h.close
  · have fed := h.withInput (service.input.read service.session.config.frameLimit).2
    dsimp only
    split
    · exact fed
    · exact fed.settleMessage _
    · dsimp only
      exact (fed.follow _).close
    · dsimp only
      exact (fed.follow _).close

/-- Messages are handled one after the other. -/
theorem readMessages (h : service.Alert) (fuel : Nat) :
    (Service.readMessages m fuel service).Alert := by
  induction fuel generalizing service with
  | zero => exact h
  | succ fuel ih =>
    have read := h.readMessage (m := m)
    unfold Service.readMessages
    split
    · next next hnext => exact ih (by rwa [hnext] at read)
    · next next hnext => rwa [hnext] at read

/-- The message that waits goes on. -/
theorem resumeMessage (h : service.Alert) : (service.resumeMessage m).2.Alert := by
  unfold Service.resumeMessage
  split
  · exact h
  · split
    · dsimp only
      exact h.close
    · dsimp only
      split
      · dsimp only
        exact h.follow _
      · exact h.settleMessage _

/-- The turn of the one who reads. -/
theorem turnServing (h : service.Alert) : (service.turnServing m).Alert := by
  unfold Service.turnServing
  split
  · have begun : service.begin.Alert := fun _ _ => mem_queue_wake _ .writing
    exact begun.readMessages _
  · have resumed := h.resumeMessage (m := m)
    split
    · next next hnext =>
      rw [hnext] at resumed
      exact resumed.readMessages _
    · next next hnext => rwa [hnext] at resumed
  · exact h.finish
  · exact h
  · exact h

/-- After a turn of the one who writes there is nothing to do for it, or it writes no more. -/
theorem turnWriting (service : Service state pending) : (service.turnWriting m).Alert := by
  have closed (last : Service state pending) : last.closeWriting.Alert := by
    obtain ⟨entries, queue, hclose⟩ := Served.closeWriting_eq last
    rw [hclose]
    exact of_not_running nofun
  unfold Service.turnWriting
  split
  · next idle => exact of_not_running (by simpa using idle)
  · dsimp only
    split
    · exact closed _
    · split
      · next isOpen =>
        rintro - (waits | shut)
        · exact absurd rfl waits
        · exact absurd (isOpen.symm.trans shut) (by simp)
      · exact closed _

/-- The turn of a supervisor. -/
theorem turnSupervising (h : service.Alert) (number : Nat) :
    (service.turnSupervising m number).Alert := by
  have followed := h.follow (service.session.turnSupervisor m service.world number)
  unfold Service.turnSupervising
  dsimp only
  split
  · exact followed.listen (.supervising number)
  · exact followed

/-- The turn of a job that is taken out of the queue. -/
theorem turn (h : service.Alert) (job : Job) {queue : List Job}
    (left : ∀ waiting ∈ service.queue, waiting ≠ job → waiting ∈ queue) :
    ({ service with queue := queue }.turn m job).Alert := by
  have kept (other : job ≠ .writing) :
      ({ service with queue := queue } : Service state pending).Alert :=
    h.change rfl rfl fun waits => left .writing waits other.symm
  cases job with
  | serving => exact (kept nofun).turnServing
  | writing => exact turnWriting _
  | request ticket => exact (kept nofun).follow _
  | supervising number => exact (kept nofun).turnSupervising number

/-- Jobs have their turns. -/
theorem settleTurns (h : service.Alert) (fuel : Nat) :
    (Service.settleTurns m fuel service).Alert := by
  induction fuel generalizing service with
  | zero => exact h
  | succ fuel ih =>
    unfold Service.settleTurns
    split
    · exact h
    · next job queue hqueue =>
      refine ih (h.turn job fun waiting queued others => ?_)
      rw [hqueue] at queued
      exact (List.mem_cons.mp queued).resolve_left others

/-! ## Moves -/

/-- Time passes. -/
theorem passTime (h : service.Alert) (fuel target : Nat) :
    (Service.passTime m fuel target service).Alert := by
  induction fuel generalizing service with
  | zero => exact h.withWorld _
  | succ fuel ih =>
    unfold Service.passTime
    split
    · exact h.withWorld _
    · next due _ =>
      have later := h.withWorld { service.world with now := max service.world.now due }
      exact ih ((later.wakeAll _).settleTurns Agenda.patience)

/-- Whoever waits for input goes on. -/
theorem feed (h : service.Alert) (input : Input) : (service.feed input).Alert := by
  unfold Service.feed
  dsimp only
  split
  · exact (h.withInput input).wakeAll [.serving]
  · exact h.withInput input

/-- A command is carried out. -/
theorem apply (h : service.Alert) (command : Command state) :
    (service.apply m command).2.Alert := by
  cases command with
  | arrive piece => exact h.feed _
  | endInput => exact h.feed _
  | emit event => exact h.follow _
  | stir change =>
    let stirred : Service state pending :=
      { service with session := service.session.withEngine (change service.session.bridge.engine) }
    have alert : stirred.Alert := h.change rfl rfl id
    exact alert.wakeAll service.waiting
  | probe probe => exact h.withWorld _
  | advance time => exact (h.settleTurns Agenda.patience).passTime _ _
  | abandon =>
    have followed := h.follow ({ service.session with turn := none }.terminate m .transportClosed)
    unfold Service.apply Service.abandon
    dsimp only
    split
    · exact h
    · exact h
    · exact followed.withPhase .abandoned

/-- A move is made. -/
theorem move (h : service.Alert) (move : Move state) : (service.move m move).Alert := by
  cases move with
  | turn job =>
    exact h.turn job fun waiting queued others => (List.mem_erase_of_ne others).mpr queued
  | given command => exact h.apply command
  | clock now => exact h.withWorld _

/-- Whatever moves are made. -/
theorem moves (h : service.Alert) (made : List (Move state)) : (service.moves m made).Alert := by
  induction made generalizing service with
  | nil => exact h
  | cons move rest ih => exact ih (h.move move)

end Alert

end LspGateway.Service
