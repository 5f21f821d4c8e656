import LspGateway.Proofs.Registry.Live
import LspGateway.Proofs.Session.Alike
import Mathlib.Data.List.Nodup

/-!
# Coherent sessions

The parts of a session say the same thing in several ways. Whether it has ended
shows in its lifecycle, in its registry, in its bridge and in its queue; which
requests are without answer shows in the registry and in the tasks; and which
message waits for the engine restricts the phase. A session is coherent if all
of these agree. What is put down here is which of the steps that a session is
made of keep it coherent; that whole acts do so follows in the module on acts.
-/

namespace LspGateway.Session

variable {state pending : Type}

/-- Whether the session was torn down. -/
def hasEnded (session : Session state pending) : Bool :=
  session.lifecycle.phase == .exited

/-- Sessions that are alike have ended together. -/
theorem Alike.hasEnded {session told : Session state pending} (h : session.Alike told) :
    told.hasEnded = session.hasEnded := by
  unfold Session.hasEnded
  rw [h.lifecycle]

/-- The request that waits for the end of a duty. -/
def Duty.asker? : Duty → Option RequestId
  | .opening id | .shutdown id => some id
  | .confirmation | .exit | .notice _ => none

/-- The phases in which the engine may be at a message. -/
def Duty.FitsIn : Duty → Phase → Prop
  | .opening _, phase => phase = .initializing
  | .confirmation, phase | .notice _, phase => phase = .initialized
  | .shutdown _, phase => phase = .shuttingDown
  | .exit, phase => phase ≠ .exited

/-- Which step of the lifecycle goes with the beginning of a duty. -/
def Duty.Starts : Duty → Lifecycle → Lifecycle → Prop
  | .opening _, before, after => before.beginHandshake = .ok after
  | .confirmation, before, after => before.completeHandshake? = some after
  | .shutdown _, before, after => before.beginShutdown = .ok after
  | .exit, before, after => after = before
  | .notice _, before, after => before.phase = .initialized ∧ after = before

/-- In which phase a duty begins, and what becomes of the lifecycle. -/
theorem Duty.Starts.inv {duty : Duty} {before after : Lifecycle} (h : duty.Starts before after) :
    match duty with
    | .opening _ =>
      before.phase = .uninitialized ∧ after = { before with phase := .initializing }
    | .confirmation =>
      before.phase = .initializing ∧ after = { before with phase := .initialized }
    | .shutdown _ => before.phase = .initialized ∧
      after = { before with phase := .shuttingDown, shutdownRequested := true }
    | .exit => after = before
    | .notice _ => before.phase = .initialized ∧ after = before := by
  cases duty with
  | opening id =>
    simp only [Starts, Lifecycle.beginHandshake] at h
    split at h <;> simp only [Except.ok.injEq, reduceCtorEq] at h
    next hphase => exact ⟨hphase, h.symm⟩
  | confirmation =>
    simp only [Starts, Lifecycle.completeHandshake?] at h
    split at h <;> simp only [Option.some.injEq, reduceCtorEq] at h
    next hphase => exact ⟨hphase, h.symm⟩
  | shutdown id =>
    simp only [Starts, Lifecycle.beginShutdown] at h
    split at h <;> simp only [Except.ok.injEq, reduceCtorEq] at h
    next hphase => exact ⟨hphase, h.symm⟩
  | exit => exact h
  | notice notice => exact h

/-- A handshake that is taken back leaves the lifecycle as it was. -/
theorem Duty.Starts.abortHandshake {id : RequestId} {before after : Lifecycle}
    (h : (Duty.opening id).Starts before after) : after.abortHandshake = before := by
  obtain ⟨phase, rfl⟩ := h.inv
  rw [Lifecycle.abortHandshake, ← phase]

/-- A duty begins in a phase that it fits in. -/
theorem Duty.Starts.fitsIn {duty : Duty} {before after : Lifecycle} (h : duty.Starts before after)
    (hp : before.phase ≠ .exited) : duty.FitsIn after.phase := by
  have hinv := h.inv
  cases duty with
  | opening id =>
    rw [hinv.2]
    rfl
  | confirmation =>
    rw [hinv.2]
    rfl
  | shutdown id =>
    rw [hinv.2]
    rfl
  | exit => exact h ▸ hp
  | notice notice => exact h.2 ▸ h.1

/-- No duty fits in a session that has ended. -/
theorem Duty.FitsIn.ne_exited {duty : Duty} {phase : Phase} (h : duty.FitsIn phase) :
    phase ≠ .exited := by
  cases duty with
  | exit => exact h
  | _ => exact fun he => absurd (h.symm.trans he) (by decide)

/-- The registry and the tasks tell of the same requests. -/
structure Agreement (registry : Registry) (tasks : List (Task pending)) (next : Nat) : Prop where
  /-- Entries refer to handles made for them. -/
  sound : registry.Sound
  /-- An identifier has a live handle exactly while its request has a task. -/
  live : ∀ id number, registry.live? id = some number ↔
    ∃ task ∈ tasks, task.id = id ∧ task.handle = number
  /-- No two tasks have one identifier. -/
  ids : (tasks.map Task.id).Nodup
  /-- No two tasks have one ticket. -/
  tickets : (tasks.map Task.ticket).Nodup
  /-- Tickets are given out in order. -/
  below : ∀ task ∈ tasks, task.ticket < next
  /-- The cancellation of the session reaches every request. -/
  thorough : registry.Thorough

/-- The parts of a session agree. -/
structure Coherent (session : Session state pending) : Prop where
  /-- Every handler at the hub forwards to the client. -/
  onlyForwards : session.bridge.OnlyForwards
  /-- The engine is given away when the session ends. -/
  released : session.bridge.released = session.hasEnded
  /-- The teardown happens when the session ends. -/
  disposed : session.bridge.disposed = session.hasEnded
  /-- Everything is cancelled when the session ends. -/
  cancelled : session.registry.sessionCancelled = session.hasEnded
  /-- The queue is closed when the session ends. -/
  isOpen : session.bridge.outbound.isOpen = !session.hasEnded
  /-- Until then somebody takes messages. -/
  hasReceiver : session.hasEnded = false → session.bridge.outbound.hasReceiver = true
  /-- The registry and the tasks agree. -/
  agreement : Agreement session.registry session.tasks session.nextTicket
  /-- The message that waits fits the phase, unless the session has ended meanwhile. -/
  turn : ∀ turn, session.turn = some turn →
    session.hasEnded = true ∨ turn.duty.FitsIn session.lifecycle.phase

/-! ## Requests -/

namespace Agreement

variable {registry : Registry} {tasks : List (Task pending)} {next : Nat}

/-- Without requests there is nothing to agree on. -/
theorem empty : Agreement .empty ([] : List (Task pending)) 0 where
  sound := fun _ _ h => absurd h (by simp [Registry.empty])
  live := fun id number => by simp [Registry.live?, Registry.empty]
  ids := List.nodup_nil
  tickets := List.nodup_nil
  below := fun _ h => absurd h List.not_mem_nil
  thorough := fun h => absurd h Bool.false_ne_true

/-- Every task has the live handle of its identifier. -/
theorem live_of_mem (h : Agreement registry tasks next) {task : Task pending} (ht : task ∈ tasks) :
    registry.live? task.id = some task.handle :=
  (h.live task.id task.handle).mpr ⟨task, ht, rfl, rfl⟩

/-- An identifier is free exactly while no task has it. -/
theorem live_eq_none_iff (h : Agreement registry tasks next) {id : RequestId} :
    registry.live? id = none ↔ ∀ task ∈ tasks, task.id ≠ id := by
  constructor
  · intro hfree task ht hid
    have hl := h.live_of_mem ht
    rw [hid, hfree] at hl
    exact absurd hl (by simp)
  · intro hnone
    cases hl : registry.live? id with
    | none => rfl
    | some number =>
      obtain ⟨task, ht, hid, -⟩ := (h.live id number).mp hl
      exact absurd hid (hnone task ht)

/-- Once everything was cancelled, every task is cancelled. -/
theorem isCancelled (h : Agreement registry tasks next) (all : registry.sessionCancelled = true)
    {task : Task pending} (ht : task ∈ tasks) : registry.isCancelled task.handle = true := by
  obtain ⟨handle, hh, -⟩ := h.sound.handle_of_live (h.live_of_mem ht)
  exact h.thorough.isCancelled all hh

/-- Tasks are told apart by their tickets. -/
theorem eq_of_ticket (h : Agreement registry tasks next) {first second : Task pending}
    (hf : first ∈ tasks) (hs : second ∈ tasks) (ht : first.ticket = second.ticket) :
    first = second :=
  List.inj_on_of_nodup_map h.tickets hf hs ht

/-- Tasks are told apart by their identifiers. -/
theorem eq_of_id (h : Agreement registry tasks next) {first second : Task pending}
    (hf : first ∈ tasks) (hs : second ∈ tasks) (hid : first.id = second.id) : first = second :=
  List.inj_on_of_nodup_map h.ids hf hs hid

/-- A request is registered under a free identifier and becomes the last task. -/
theorem registered (h : Agreement registry tasks next) {id : RequestId}
    (hfree : registry.live? id = none) (feature : Engine.Feature) (stage : Stage pending) :
    Agreement (registry.registered id)
      (tasks ++ [⟨next, id, feature, registry.handles.length, stage⟩]) (next + 1) := by
  have hnone := h.live_eq_none_iff.mp hfree
  refine ⟨h.sound.registered id, fun other number => ?_, ?_, ?_, ?_, h.thorough.registered id⟩
  · rw [Registry.live?_registered h.sound]
    by_cases ho : other = id
    · subst ho
      simp only [if_true, Option.some.injEq, List.mem_append, List.mem_singleton]
      constructor
      · intro hn
        exact ⟨_, .inr rfl, rfl, hn⟩
      · rintro ⟨task, ht | rfl, hid, hn⟩
        · exact absurd hid (hnone task ht)
        · exact hn
    · simp only [if_neg ho, h.live, List.mem_append, List.mem_singleton]
      constructor
      · rintro ⟨task, ht, hboth⟩
        exact ⟨task, .inl ht, hboth⟩
      · rintro ⟨task, ht | rfl, hid, hn⟩
        · exact ⟨task, ht, hid, hn⟩
        · exact absurd hid.symm ho
  · simp only [List.map_append, List.map_cons, List.map_nil]
    refine List.nodup_append.mpr ⟨h.ids, List.nodup_singleton _, fun a ha b hb hab => ?_⟩
    obtain ⟨task, ht, rfl⟩ := List.mem_map.mp ha
    exact hnone task ht (hab.trans (List.mem_singleton.mp hb))
  · simp only [List.map_append, List.map_cons, List.map_nil]
    refine List.nodup_append.mpr ⟨h.tickets, List.nodup_singleton _, fun a ha b hb hab => ?_⟩
    obtain ⟨task, ht, rfl⟩ := List.mem_map.mp ha
    have hlt := h.below task ht
    have heq := hab.trans (List.mem_singleton.mp hb)
    omega
  · intro task ht
    rcases List.mem_append.mp ht with hold | hnew
    · exact Nat.lt_succ_of_lt (h.below task hold)
    · rw [List.mem_singleton.mp hnew]
      exact Nat.lt_succ_self next

/-- A request that is answered takes its entry and its task along. -/
theorem ended (h : Agreement registry tasks next) {task : Task pending} (ht : task ∈ tasks) :
    Agreement (registry.ended task.id task.handle)
      (tasks.filter fun other => other.ticket != task.ticket) next := by
  have hl := h.live_of_mem ht
  have hsub : (tasks.filter fun other => other.ticket != task.ticket).Sublist tasks :=
    List.filter_sublist
  refine ⟨h.sound.ended hl, fun other number => ?_, h.ids.sublist (hsub.map _),
    h.tickets.sublist (hsub.map _), fun other ho => h.below other (hsub.subset ho),
    h.thorough.ended _ _⟩
  rw [Registry.live?_ended h.sound hl]
  simp only [List.mem_filter, bne_iff_ne, ne_eq]
  by_cases ho : other = task.id
  · rw [if_pos ho]
    constructor
    · intro hn
      exact absurd hn (by simp)
    · rintro ⟨rival, ⟨hr, hne⟩, hid, -⟩
      exact absurd (congrArg Task.ticket (h.eq_of_id hr ht (hid.trans ho))) hne
  · rw [if_neg ho, h.live]
    constructor
    · rintro ⟨rival, hr, hid, hn⟩
      refine ⟨rival, ⟨hr, fun heq => ?_⟩, hid, hn⟩
      exact ho (hid.symm.trans (congrArg Task.id (h.eq_of_ticket hr ht heq)))
    · rintro ⟨rival, ⟨hr, -⟩, hboth⟩
      exact ⟨rival, hr, hboth⟩

/-- How far a task has come does not matter. -/
theorem parked (h : Agreement registry tasks next) {task : Task pending} (ht : task ∈ tasks)
    (stage : Stage pending) :
    Agreement registry (tasks.map fun other =>
      if other.ticket == task.ticket then { task with stage := stage } else other) next := by
  -- The task that is replaced is the one with the ticket, and only its stage changes.
  let change : Task pending → Task pending := fun other =>
    if other.ticket == task.ticket then { other with stage := stage } else other
  have hsame : (tasks.map fun other =>
      if other.ticket == task.ticket then { task with stage := stage } else other) =
      tasks.map change := by
    refine List.map_congr_left fun other ho => ?_
    by_cases heq : (other.ticket == task.ticket) = true
    · simp only [change, heq, if_true]
      rw [h.eq_of_ticket ho ht (by simpa using heq)]
    · simp only [change, heq]
      rfl
  have hticket (other : Task pending) : (change other).ticket = other.ticket := by
    simp only [change]
    split <;> rfl
  have hid (other : Task pending) : (change other).id = other.id := by
    simp only [change]
    split <;> rfl
  have hhandle (other : Task pending) : (change other).handle = other.handle := by
    simp only [change]
    split <;> rfl
  have hids : (tasks.map change).map Task.id = tasks.map Task.id := by
    simp only [List.map_map, Function.comp_def, hid]
  have htickets : (tasks.map change).map Task.ticket = tasks.map Task.ticket := by
    simp only [List.map_map, Function.comp_def, hticket]
  rw [hsame]
  refine ⟨h.sound, fun id number => ?_, hids ▸ h.ids, htickets ▸ h.tickets, ?_, h.thorough⟩
  · simp only [h.live, List.mem_map, exists_exists_and_eq_and, hid, hhandle]
  · simp only [List.forall_mem_map, hticket]
    exact h.below

/-- Which requests are cancelled does not matter. -/
theorem withRegistry (h : Agreement registry tasks next) {other : Registry} (hs : other.Sound)
    (hl : ∀ id, other.live? id = registry.live? id) (ht : other.Thorough) :
    Agreement other tasks next :=
  { h with sound := hs, live := fun id number => by rw [hl, h.live], thorough := ht }

end Agreement

/-! ## Steps that keep a session coherent -/

/-- The session with the engine in another state. -/
def withEngine (session : Session state pending) (engine : state) : Session state pending :=
  { session with bridge := { session.bridge with engine := engine } }

/-- The session with another queue. -/
def withOutbound (session : Session state pending) (outbound : Outbound) : Session state pending :=
  { session with bridge := { session.bridge with outbound := outbound } }

/-- The session with another message that waits for the engine, or none. -/
def withTurn (session : Session state pending) (turn : Option (Turn pending)) :
    Session state pending :=
  { session with turn := turn }

namespace Coherent

variable {session : Session state pending}

/-- A session that has seen no message. -/
theorem create (engine : state) (config : SessionConfig) :
    (Session.create engine config : Session state pending).Coherent where
  onlyForwards := Bridge.onlyForwards_connect engine
  released := rfl
  disposed := rfl
  cancelled := rfl
  isOpen := rfl
  hasReceiver := fun _ => rfl
  agreement := .empty
  turn := fun _ h => absurd h (by simp [Session.create])

/-- Sessions that are alike are coherent together. -/
theorem alike {other : Session state pending} (h : session.Coherent) (ha : session.Alike other) :
    other.Coherent := by
  have hended := ha.hasEnded
  refine ⟨ha.onlyForwards h.onlyForwards, ?_, ?_, ?_, ?_, ?_, ?_, ?_⟩
  · rw [ha.released, hended, h.released]
  · rw [ha.disposed, hended, h.disposed]
  · rw [ha.registry, hended, h.cancelled]
  · rw [ha.outbound.isOpen, hended, h.isOpen]
  · rw [ha.outbound.hasReceiver, hended]
    exact h.hasReceiver
  · rw [ha.registry, ha.tasks, ha.nextTicket]
    exact h.agreement
  · rw [ha.turn, hended, ha.lifecycle]
    exact h.turn

/-- A step of the lifecycle before the end, while no message waits. -/
theorem withLifecycle (h : session.Coherent) (hs : session.hasEnded = false)
    (hturn : session.turn = none) {next : Lifecycle} (hn : next.phase ≠ .exited) :
    { session with lifecycle := next }.Coherent := by
  have hnext : ({ session with lifecycle := next } : Session state pending).hasEnded = false := by
    simpa [hasEnded] using hn
  refine { h with released := ?_, disposed := ?_, cancelled := ?_, isOpen := ?_, hasReceiver := ?_,
                  turn := ?_ }
  · rw [hnext, ← hs, ← h.released]
  · rw [hnext, ← hs, ← h.disposed]
  · rw [hnext, ← hs, ← h.cancelled]
  · rw [hnext, ← hs, ← h.isOpen]
  · exact fun _ => h.hasReceiver hs
  · intro turn ht
    exact absurd (hturn.symm.trans ht) (by simp)

/-- A change of the engine. -/
theorem withEngine (h : session.Coherent) (engine : state) :
    (session.withEngine engine).Coherent :=
  ⟨h.onlyForwards, h.released, h.disposed, h.cancelled, h.isOpen, h.hasReceiver, h.agreement,
    h.turn⟩

/-- A message begins to wait. -/
theorem withTurn (h : session.Coherent) {turn : Turn pending}
    (ht : turn.duty.FitsIn session.lifecycle.phase) :
    (session.withTurn (some turn)).Coherent :=
  { h with turn := fun _ ho => .inr (Option.some.inj ho ▸ ht) }

/-- No message waits any more. -/
theorem withoutTurn (h : session.Coherent) : (session.withTurn none).Coherent :=
  { h with turn := fun _ ht => absurd ht (by simp [Session.withTurn]) }

/-- A message is put into the queue, if it is open. -/
theorem send (h : session.Coherent) (message : Outgoing) : (session.send message).Coherent := by
  have hsame : ((session.bridge.outbound.send message).2.1).isOpen = session.bridge.outbound.isOpen ∧
      ((session.bridge.outbound.send message).2.1).hasReceiver =
        session.bridge.outbound.hasReceiver := by
    unfold Outbound.send
    split
    · exact ⟨rfl, rfl⟩
    · split <;> exact ⟨rfl, rfl⟩
  exact ⟨h.onlyForwards, h.released, h.disposed, h.cancelled, hsame.1.trans h.isOpen,
    fun he => hsame.2.trans (h.hasReceiver he), h.agreement, h.turn⟩

/-- A request is cancelled. -/
theorem cancel (h : session.Coherent) (id : RequestId) :
    { session with registry := (session.registry.cancel id).2 }.Coherent := by
  have hflag : (session.registry.cancel id).2.sessionCancelled =
      session.registry.sessionCancelled := by
    unfold Registry.cancel
    split <;> rfl
  exact { h with
    cancelled := hflag.trans h.cancelled
    agreement := h.agreement.withRegistry (h.agreement.sound.cancel id)
      (Registry.live?_cancel session.registry id) (h.agreement.thorough.cancel id) }

/-- The queue is emptied by whoever takes its messages. -/
theorem withOutbound (h : session.Coherent) {outbound : Outbound}
    (hopen : outbound.isOpen = session.bridge.outbound.isOpen)
    (hreceiver : session.hasEnded = false → outbound.hasReceiver = true) :
    (session.withOutbound outbound).Coherent :=
  ⟨h.onlyForwards, h.released, h.disposed, h.cancelled, hopen.trans h.isOpen, hreceiver,
    h.agreement, h.turn⟩

end Coherent

/-! ## The end -/

/-- What the end of a session that lasted until then comes to. -/
structure Terminated (m : Engine state pending) (before : Session state pending)
    (ending : Ending) (after : Session state pending) : Prop where
  /-- The lifecycle is over. -/
  lifecycle : after.lifecycle = { before.lifecycle with phase := .exited, ending := some ending }
  /-- Everything is cancelled. -/
  registry : after.registry = before.registry.cancelSession
  /-- The tasks stay. -/
  tasks : after.tasks = before.tasks
  /-- The message that waits for the engine stays. -/
  turn : after.turn = before.turn
  /-- The number of the next task is as before. -/
  nextTicket : after.nextTicket = before.nextTicket
  /-- The engine was disposed of. -/
  engine : after.bridge.engine = (m.dispose before.bridge.engine).1
  /-- The engine was given away. -/
  released : after.bridge.released = true
  /-- The teardown is over. -/
  disposed : after.bridge.disposed = true
  /-- The handlers that are left forward to the client. -/
  onlyForwards : after.bridge.OnlyForwards
  /-- The queue is closed. -/
  closed : after.bridge.outbound.isOpen = false
  /-- Only notifications were queued. -/
  queued : ∃ notes, after.bridge.outbound.queued = before.bridge.outbound.queued ++ notes ∧
    ∀ note ∈ notes, note.isResponse = false

/-- A session that was made to end has ended. -/
theorem Terminated.hasEnded {m : Engine state pending} {before after : Session state pending}
    {ending : Ending} (h : Terminated m before ending after) : after.hasEnded = true := by
  unfold Session.hasEnded
  rw [h.lifecycle]
  rfl

/-- The end of a session that lasts is the teardown, and the step of the lifecycle. -/
theorem alike_terminate (m : Engine state pending) {session : Session state pending}
    (lives : session.hasEnded = false) (ending : Ending) :
    { session.tearDown m with
      lifecycle := { session.lifecycle with phase := .exited, ending := some ending } }.Alike
      (session.terminate m ending) := by
  have hphase : session.lifecycle.phase ≠ .exited := by simpa [hasEnded] using lives
  have hnext : session.lifecycle.terminate? ending =
      some { session.lifecycle with phase := .exited, ending := some ending } := by
    unfold Lifecycle.terminate?
    split
    · contradiction
    · rfl
  unfold Session.terminate
  rw [hnext]
  exact (Alike.pass (session.tearDown m) _).trans (.report _ [terminatedEntry ending])

namespace Coherent

variable {session : Session state pending}

/-- A session that lasts can be ended. -/
theorem terminated (m : Engine state pending) (h : session.Coherent)
    (lives : session.hasEnded = false) (ending : Ending) :
    Terminated m session ending (session.terminate m ending) := by
  have torn := Bridge.tornDown_runOnce m h.onlyForwards (h.disposed.trans lives)
    (h.released.trans lives)
  obtain ⟨notes, hq, hnotes, -⟩ := torn.outbound.queued
  have told := alike_terminate m lives ending
  refine ⟨told.lifecycle, told.registry, told.tasks, told.turn, told.nextTicket,
    told.engine.trans torn.engine, told.released.trans torn.released,
    told.disposed.trans torn.disposed, told.onlyForwards torn.onlyForwards,
    told.outbound.isOpen, ?_⟩
  obtain ⟨more, hmore, hkinds, -⟩ := told.outbound.queued
  refine ⟨notes ++ more, ?_, fun note hn => ?_⟩
  · rw [hmore, ← List.append_assoc, ← hq]
    rfl
  · rcases List.mem_append.mp hn with hn | hn
    · exact hnotes note hn
    · exact hkinds note hn

/-- The end keeps a session coherent. -/
theorem terminate (m : Engine state pending) (h : session.Coherent) (ending : Ending) :
    (session.terminate m ending).Coherent := by
  cases lives : session.hasEnded with
  | true =>
    rw [terminate_of_exited m session ending (by simpa [hasEnded] using lives)]
    exact h
  | false =>
    have finished := h.terminated m lives ending
    have ended := finished.hasEnded
    refine ⟨finished.onlyForwards, finished.released.trans ended.symm, finished.disposed.trans ended.symm,
      ?_, ?_, ?_, ?_, fun _ _ => .inl ended⟩
    · rw [finished.registry, ended]
      rfl
    · rw [finished.closed, ended]
      rfl
    · intro hfalse
      exact absurd (ended.symm.trans hfalse) (by simp)
    · rw [finished.registry, finished.tasks, finished.nextTicket]
      exact h.agreement.withRegistry h.agreement.sound.cancelSession
        (Registry.live?_cancelSession session.registry) (.cancelSession session.registry)

/-- A session that was made to end has ended, if it had not before. -/
theorem hasEnded_terminate (m : Engine state pending) (h : session.Coherent) (ending : Ending) :
    (session.terminate m ending).hasEnded = true := by
  cases lives : session.hasEnded with
  | true =>
    rw [terminate_of_exited m session ending (by simpa [hasEnded] using lives)]
    exact lives
  | false => exact (h.terminated m lives ending).hasEnded

end Coherent

end LspGateway.Session
