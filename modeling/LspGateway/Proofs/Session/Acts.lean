import LspGateway.Proofs.Session.Answering

/-!
# Acts of a session

Whatever happens to a session is one of the acts listed here. A frame is handled
only while no message waits for the engine, and after the session was told to
stop neither a frame nor a waiting message is taken up; tasks, supervisors and
the writing go on by themselves, in any order. The queue loses its receiver only
when it is closed.

Every act comes to one of a few classes, and every act keeps a session coherent.
-/

namespace LspGateway.Session

variable {state pending : Type}

/-- What can happen to a session. -/
inductive Act (state : Type) where
  /-- A frame is received, in some world. -/
  | receive (world : World) (payload : Bytes)
  /-- The message that waits for the engine goes on. -/
  | resume
  /-- The task of a ticket goes on: it has one turn, undivided. -/
  | work (ticket : Nat)
  /-- A supervisor has its turn. -/
  | watch (world : World) (number : Nat)
  /-- The engine publishes an event of its own accord. -/
  | publish (event : Event)
  /-- The engine comes to something of its own accord. -/
  | stir (change : state → state)
  /-- Something is reported. -/
  | note (entries : List Log.Entry)
  /-- The queue is emptied by the one who writes. -/
  | take
  /-- The one who writes is gone. -/
  | dropReceiver
  /-- The input ends between frames. -/
  | inputEnded
  /-- The input fails. -/
  | inputFailed (fault : Frame.Fault)
  /-- The output fails. -/
  | outputFailed (fault : Frame.Fault)
  /-- The session is given up, and the message that waits is cut off. -/
  | close

/-- Whether the next frame may be handled. -/
def reads (session : Session state pending) : Bool :=
  session.turn.isNone && !session.isCancelled

/-- Performs an act. An act whose time has not come changes nothing. One turn of a task is one
act: nothing comes between its finding the engine and its calling it, a teardown least of
all. -/
def perform (m : Engine state pending) (session : Session state pending) :
    Act state → Session state pending
  | .receive world payload =>
    if session.reads then (session.handleFrame m world payload).2 else session
  | .resume => if session.isCancelled then session else (session.resumeTurn m).2
  | .work ticket => session.runTask m ticket
  | .watch world number => session.turnSupervisor m world number
  | .publish event => { session with bridge := (session.bridge.emit m event).2.1 }
  | .stir change => session.withEngine (change session.bridge.engine)
  | .note entries => session.report entries
  | .take => session.withOutbound session.bridge.outbound.take.2
  | .dropReceiver =>
    if session.bridge.outbound.isOpen then session
    else session.withOutbound session.bridge.outbound.dropReceiver
  | .inputEnded => session.inputEnded m
  | .inputFailed fault => session.inputFailed m fault
  | .outputFailed fault => session.outputFailed m fault
  | .close => (session.withTurn none).terminate m .transportClosed

/-- A frame that was handled, and the session that it found. -/
structure Receipt (state pending : Type) where
  /-- The session before the frame was handled. -/
  found : Session state pending
  /-- The payload of the frame. -/
  payload : Bytes

/-- The frame that is handled in an act, if one is. -/
def received (session : Session state pending) : Act state → List (Receipt state pending)
  | .receive _ payload => if session.reads then [⟨session, payload⟩] else []
  | _ => []

/-- The messages that leave the queue in an act. -/
def leaving (session : Session state pending) : Act state → List Outgoing
  | .take => session.bridge.outbound.queued
  | .dropReceiver =>
    if session.bridge.outbound.isOpen then [] else session.bridge.outbound.queued
  | _ => []

/-- What an act comes to. -/
inductive Performed (m : Engine state pending) (session : Session state pending) :
    Act state → Session state pending → Prop where
  /-- Nothing but reports and forwarded events. -/
  | quiet {act : Act state} {told : Session state pending}
      (unread : session.received act = []) (kept : session.leaving act = [])
      (other : ∀ ticket, act ≠ .work ticket) (alike : session.Alike told) :
      Performed m session act told
  /-- A frame is handled. -/
  | handled {after : Session state pending} (world : World) (payload : Bytes)
      (lives : session.hasEnded = false) (idle : session.turn = none)
      (upshot : Upshot m session payload after) : Performed m session (.receive world payload) after
  /-- The engine is asked again for the message that waits. -/
  | resumed {after : Session state pending} (turn : Turn pending)
      (lives : session.hasEnded = false) (waits : session.turn = some turn)
      (continued :
        Continued m session turn.duty (m.resume turn.call none session.bridge.engine) after) :
      Performed m session .resume after
  /-- A task goes on. -/
  | worked {after : Session state pending} (ticket : Nat) (worked : Worked m session ticket after) :
      Performed m session (.work ticket) after
  /-- The engine changes. -/
  | stirred (change : state → state) :
      Performed m session (.stir change) (session.withEngine (change session.bridge.engine))
  /-- The queue is emptied. -/
  | taken : Performed m session .take (session.withOutbound session.bridge.outbound.take.2)
  /-- The queue has been closed and is lost. -/
  | dropped (closed : session.bridge.outbound.isOpen = false) :
      Performed m session .dropReceiver (session.withOutbound session.bridge.outbound.dropReceiver)
  /-- The session ends, unless it has ended. -/
  | ended {act : Act state} {told : Session state pending} (ending : Ending)
      (turn : Option (Turn pending)) (unread : session.received act = [])
      (kept : session.leaving act = []) (other : ∀ ticket, act ≠ .work ticket)
      (cut : turn = session.turn ∨ turn = none)
      (alike : (session.withTurn turn).Alike told) :
      Performed m session act (told.terminate m ending)

section Classes

variable {m : Engine state pending} {session : Session state pending}

/-- A coherent session was told to stop exactly if it has ended. -/
theorem Coherent.isCancelled (h : session.Coherent) : session.isCancelled = session.hasEnded :=
  h.cancelled

/-- A coherent session reads on exactly while it lasts and no message waits. -/
theorem Coherent.reads_eq_true_iff (h : session.Coherent) :
    session.reads = true ↔ session.turn = none ∧ session.hasEnded = false := by
  simp [reads, h.isCancelled]

/-- A frame finds the session as it is. -/
theorem found_of_mem_received {act : Act state} {receipt : Receipt state pending}
    (h : receipt ∈ session.received act) : receipt.found = session := by
  cases act with
  | receive world payload =>
    simp only [received] at h
    split at h
    · rw [List.mem_singleton.mp h]
    · exact absurd h List.not_mem_nil
  | _ => exact absurd h List.not_mem_nil

/-- A turn of a supervisor comes to nothing, or ends the session. -/
theorem turnSupervisor_performed (world : World) (number : Nat) :
    Performed m session (.watch world number) (session.turnSupervisor m world number) := by
  have told : session.Alike
      { session with
        bridge := (session.bridge.turnSupervisor number session.isCancelled world.now world.probe).2
        probed := (session.bridge.turnSupervisor number session.isCancelled world.now
          world.probe).1.probed.toList ++ session.probed } := by
    have watches := Bridge.Watches.turnSupervisor session.bridge number session.isCancelled
      world.now world.probe
    unfold Bridge.turnSupervisor at watches ⊢
    split at watches <;>
      exact ⟨rfl, rfl, rfl, rfl, rfl, rfl, rfl, rfl, rfl, rfl, rfl, rfl, watches, .refl _⟩
  unfold turnSupervisor
  dsimp only
  split
  · exact .ended .clientGone session.turn rfl rfl nofun (.inl rfl) told
  · exact .quiet rfl rfl nofun told

/-- Every act comes to one of these. -/
theorem perform_performed (h : session.Coherent) (act : Act state) :
    Performed m session act (session.perform m act) := by
  cases act with
  | receive world payload =>
    simp only [perform]
    split
    · next hreads =>
      obtain ⟨idle, lives⟩ := h.reads_eq_true_iff.mp hreads
      exact .handled world payload lives idle (handleFrame_upshot h lives world)
    · next hreads => exact .quiet (by rw [received, if_neg hreads]) rfl nofun (.refl session)
  | resume =>
    simp only [perform]
    split
    · exact .quiet rfl rfl nofun (.refl session)
    · next hcancelled =>
      have lives : session.hasEnded = false := by
        rw [← h.isCancelled]
        exact Bool.eq_false_iff.mpr hcancelled
      unfold resumeTurn
      split
      · exact .quiet rfl rfl nofun (.refl session)
      · next turn waits =>
        exact .resumed turn lives waits (continueTurn_continued h.onlyForwards _)
  | work ticket => exact .worked ticket (runTask_worked h.onlyForwards ticket)
  | watch world number => exact turnSupervisor_performed world number
  | publish event =>
    exact .quiet rfl rfl nofun (.ofNotified (Bridge.notified_emit m h.onlyForwards event))
  | stir change => exact .stirred change
  | note entries => exact .quiet rfl rfl nofun (.report session entries)
  | take => exact .taken
  | dropReceiver =>
    simp only [perform]
    split
    · next hopen => exact .quiet rfl (by rw [leaving, if_pos hopen]) nofun (.refl session)
    · next hclosed => exact .dropped (Bool.eq_false_iff.mpr hclosed)
  | inputEnded => exact .ended _ session.turn rfl rfl nofun (.inl rfl) (.report session _)
  | inputFailed fault =>
    simp only [perform, inputFailed]
    split
    · exact .ended _ session.turn rfl rfl nofun (.inl rfl) (.report session _)
    · exact .ended _ session.turn rfl rfl nofun (.inl rfl) (.report session _)
  | outputFailed fault => exact .ended _ session.turn rfl rfl nofun (.inl rfl) (.report session _)
  | close => exact .ended _ none rfl rfl nofun (.inr rfl) (.refl _)

end Classes

/-! ## Coherence -/

namespace Coherent

variable {m : Engine state pending} {session : Session state pending}

/-- A request is registered and becomes a task. -/
theorem enlist (h : session.Coherent) {id : RequestId} (free : session.registry.live? id = none)
    (feature : Engine.Feature) (params : Json) : (session.enlist id feature params).Coherent :=
  ⟨h.onlyForwards, h.released, h.disposed, h.cancelled, h.isOpen, h.hasReceiver,
    h.agreement.registered free feature (.spawned params), h.turn⟩

/-- A task is found among the tasks, under its ticket. -/
theorem mem_of_task? {ticket : Nat} {task : Task pending}
    (found : session.task? ticket = some task) : task ∈ session.tasks ∧ task.ticket = ticket :=
  ⟨List.mem_of_find?_eq_some found, by simpa using List.find?_some found⟩

/-- Every task is found under its ticket. -/
theorem task?_of_mem (h : session.Coherent) {task : Task pending} (ht : task ∈ session.tasks) :
    session.task? task.ticket = some task := by
  cases found : session.task? task.ticket with
  | none => exact absurd (List.find?_eq_none.mp found task ht) (by simp)
  | some other =>
    obtain ⟨hmem, hticket⟩ := mem_of_task? found
    rw [h.agreement.eq_of_ticket hmem ht hticket]

/-- A task is answered and goes. -/
theorem retire (h : session.Coherent) {task : Task pending} (ht : task ∈ session.tasks) :
    (session.retire task).Coherent :=
  ⟨h.onlyForwards, h.released, h.disposed,
    (Registry.sessionCancelled_ended session.registry task.id task.handle).trans h.cancelled,
    h.isOpen, h.hasReceiver, h.agreement.ended ht, h.turn⟩

/-- A task waits for the engine. -/
theorem park (h : session.Coherent) {task : Task pending} (ht : task ∈ session.tasks)
    (call : pending) : (session.park task call).Coherent :=
  ⟨h.onlyForwards, h.released, h.disposed, h.cancelled, h.isOpen, h.hasReceiver,
    h.agreement.parked ht (.waiting call), h.turn⟩

/-- A duty that ends leaves the session in a phase before the end. -/
theorem settle_ne_exited {duty : Duty} {lifecycle : Lifecycle} (fits : duty.FitsIn lifecycle.phase)
    (outcome : Engine.Outcome) : (duty.settle outcome lifecycle).phase ≠ .exited := by
  have hne := fits.ne_exited
  have habort : lifecycle.abortHandshake.phase ≠ .exited := by
    unfold Lifecycle.abortHandshake
    split
    · simp
    · exact hne
  cases duty <;> cases outcome <;> first | exact hne | exact habort

/-- The end of a duty. -/
theorem concluded (h : session.Coherent) (idle : session.turn = none) {duty : Duty}
    (fits : duty.FitsIn session.lifecycle.phase) {outcome : Engine.Outcome}
    {after : Session state pending} (hc : Concluded m session duty outcome after) :
    after.Coherent := by
  have lives : session.hasEnded = false := by simpa [hasEnded] using fits.ne_exited
  cases hc with
  | answered id answer asker alike =>
    exact ((h.withLifecycle lives idle (settle_ne_exited fits outcome)).alike alike).send _
  | seen asker stays alike => exact h.alike alike
  | left leaves alike => exact (h.alike alike).terminate m .exit

/-- An answer of the engine in a message that waits in its turn. -/
theorem continued (h : session.Coherent) {duty : Duty}
    (fits : duty.FitsIn session.lifecycle.phase) {answer : state × Engine.Turn pending}
    {after : Session state pending} (hc : Continued m session duty answer after) :
    after.Coherent := by
  cases hc with
  | waits call progress alike => exact ((h.withEngine answer.1).withTurn fits).alike alike
  | ends outcome progress alike hc =>
    refine concluded ((h.withEngine answer.1).withoutTurn.alike alike) alike.turn ?_ hc
    rw [alike.lifecycle]
    exact fits

/-- The engine is asked in a coherent session, and in a phase that fits the duty. -/
theorem begun (h : session.Coherent) (lives : session.hasEnded = false)
    (idle : session.turn = none) {duty : Duty} {next : Lifecycle}
    (starts : duty.Starts session.lifecycle next) {told : Session state pending}
    (alike : { session with lifecycle := next }.Alike told) :
    told.Coherent ∧ duty.FitsIn told.lifecycle.phase := by
  have fits := starts.fitsIn (by simpa [hasEnded] using lives)
  refine ⟨(h.withLifecycle lives idle fits.ne_exited).alike alike, ?_⟩
  rw [alike.lifecycle]
  exact fits

/-- Asking the engine is going on with a message from the beginning. -/
theorem asked (h : session.Coherent) (duty : Duty) (call : Engine.Call) :
    Continued m session duty (m.begin call none session.bridge.engine) (session.ask m duty call).2 :=
  continueTurn_continued h.onlyForwards _

/-- As long as a session lasts, the message that waits fits the phase. -/
theorem fits (h : session.Coherent) (lives : session.hasEnded = false) {turn : Turn pending}
    (waits : session.turn = some turn) : turn.duty.FitsIn session.lifecycle.phase :=
  (h.turn turn waits).resolve_left (by simp [lives])

/-- The message that waits may be cut off. -/
theorem cut (h : session.Coherent) {turn : Option (Turn pending)}
    (hcut : turn = session.turn ∨ turn = none) : (session.withTurn turn).Coherent := by
  rcases hcut with rfl | rfl
  · exact h
  · exact h.withoutTurn

/-- A message that is handled. -/
theorem upshot (h : session.Coherent) (lives : session.hasEnded = false)
    (idle : session.turn = none) {payload : Bytes} {after : Session state pending}
    (hu : Upshot m session payload after) : after.Coherent := by
  cases hu with
  | ignored due alike => exact h.alike alike
  | cancelled id due alike => exact (h.cancel id).alike alike
  | answered id answer due alike => exact (h.alike alike).send _
  | enlisted id feature params decoded phase free due alike =>
    exact (h.enlist free feature params).alike alike
  | @asked told duty next call due starts operation alike =>
    obtain ⟨begun, fits⟩ := h.begun lives idle starts alike
    exact begun.continued fits (begun.asked duty call)

/-- A task that goes on. -/
theorem worked (h : session.Coherent) {ticket : Nat} {after : Session state pending}
    (hw : Worked m session ticket after) : after.Coherent := by
  cases hw with
  | absent missing => exact h
  | refused task answer found consulted alike =>
    exact ((h.retire (mem_of_task? found).1).alike alike).send _
  | parked task turn call found consulted progress alike =>
    exact ((h.withEngine turn.1).park (mem_of_task? found).1 call).alike alike
  | answered task turn outcome answer found consulted progress alike =>
    exact (((h.withEngine turn.1).retire (mem_of_task? found).1).alike alike).send _

/-- Every act keeps a session coherent. -/
theorem perform (h : session.Coherent) (act : Act state) : (session.perform m act).Coherent := by
  have performed : Performed m session act (session.perform m act) := perform_performed h act
  generalize session.perform m act = after at performed ⊢
  cases performed with
  | quiet unread kept other alike => exact h.alike alike
  | handled world payload lives idle hu => exact h.upshot lives idle hu
  | resumed turn lives waits hc => exact h.continued (h.fits lives waits) hc
  | worked ticket hw => exact h.worked hw
  | stirred change => exact h.withEngine _
  | taken => exact h.withOutbound rfl h.hasReceiver
  | dropped closed =>
    refine h.withOutbound rfl fun lives => ?_
    have hopen := h.isOpen
    rw [closed, lives] at hopen
    exact absurd hopen (by decide)
  | ended ending turn unread kept other cut alike => exact ((h.cut cut).alike alike).terminate m ending

end Coherent

end LspGateway.Session
