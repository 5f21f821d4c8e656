import LspGateway.Proofs.Session.Completion
import LspGateway.Proofs.Session.Ending

/-!
# Handshakes that fail

A frame that opens the handshake moves the lifecycle on, has the process watched that the
client names, and only then asks the engine. If the engine fails, the lifecycle is taken
back. The watch is not: the supervisor stays in charge, and since there is at most one, no
later handshake, not even one that succeeds, puts another in its place. So the process that
is watched is the first one that any handshake has named and that was alive then.
-/

namespace LspGateway

namespace Session

variable {state pending : Type}

/-! ## The process that is watched -/

/-- The process that the supervisor in charge asks for. -/
def watched? (session : Session state pending) : Option Nat :=
  session.bridge.attached.bind fun number =>
    (session.bridge.supervisors.map Supervisor.pid)[number]?

/-- Whether a process is found alive. -/
def World.finds (world : World) (pid : Nat) : Bool :=
  match world.probe pid with
  | .ok alive => alive
  | .error _ => false

/-- The process that a frame has watched, in some world: the one that it names, if it is
found alive. -/
def caught? (session : Session state pending) (world : World) (payload : Bytes) : Option Nat :=
  (session.named? payload).filter world.finds

/-- The process that an act has watched, unless one is watched already. -/
def catches? (session : Session state pending) : Act state → Option Nat
  | .receive world payload => if session.reads then session.caught? world payload else none
  | _ => none

/-- A supervisor that is in charge asks for some process. -/
def Charged (session : Session state pending) : Prop :=
  session.bridge.attached.isSome = true → session.watched?.isSome = true

/-- The watch goes on as before. -/
structure Guards (before after : Session state pending) : Prop where
  /-- The supervisor in charge is as before. -/
  attached : after.bridge.attached = before.bridge.attached
  /-- Every supervisor asks for the same process as before. -/
  processes : after.bridge.supervisors.map Supervisor.pid =
    before.bridge.supervisors.map Supervisor.pid

/-- A process is found, and watched unless one was watched already. -/
structure Catches (found : Option Nat) (before after : Session state pending) : Prop where
  /-- The process that was watched first stays. -/
  watched : after.watched? = before.watched?.or found
  /-- The supervisor in charge asks for some process. -/
  charged : after.Charged

namespace Guards

variable {before after : Session state pending}

/-- One thing happens after the other. -/
theorem trans {a b c : Session state pending} (hab : a.Guards b) (hbc : b.Guards c) : a.Guards c :=
  ⟨hbc.attached.trans hab.attached, hbc.processes.trans hab.processes⟩

/-- Nothing has happened to the watch. -/
theorem ofStill (h : before.Still after) : before.Guards after :=
  ⟨h.attached, congrArg _ h.supervisors⟩

/-- The same process is watched. -/
theorem watched (h : before.Guards after) : after.watched? = before.watched? := by
  unfold watched?
  rw [h.attached, h.processes]

/-- No process is found. -/
theorem catches (h : before.Guards after) (charged : before.Charged) :
    Catches none before after := by
  refine ⟨h.watched.trans (Option.or_none).symm, ?_⟩
  unfold Charged
  rw [h.attached, h.watched]
  exact charged

/-- What is caught before is caught. -/
theorem catches_trans {found : Option Nat} {told : Session state pending}
    (first : Catches found before told) (h : told.Guards after) : Catches found before after := by
  obtain ⟨watched, charged⟩ := h.catches first.charged
  exact ⟨watched.trans (Option.or_none.trans first.watched), charged⟩

end Guards

section Steps

variable {m : Engine state pending} {session : Session state pending}

/-- Publishing events at a hub that only forwards. -/
theorem guards_publish (m : Engine state pending) (forwards : session.bridge.OnlyForwards)
    (events : List Event) : session.Guards (session.publish m events) :=
  have notified := Bridge.notified_foldl_emit m forwards events
  ⟨notified.attached, congrArg _ notified.supervisors⟩

/-- What the engine comes to is taken over. -/
theorem guards_published (m : Engine state pending) (forwards : session.bridge.OnlyForwards)
    (answer : state × Engine.Turn pending) :
    session.Guards ((session.withEngine answer.1).publish m answer.2.events) := by
  have kept : (session.withEngine answer.1).bridge.OnlyForwards := forwards
  exact ⟨(guards_publish m kept answer.2.events).attached,
    (guards_publish m kept answer.2.events).processes⟩

/-- Reporting is no matter of the watch. -/
theorem guards_report (session : Session state pending) (entries : List Log.Entry) :
    session.Guards (session.report entries) :=
  ⟨rfl, rfl⟩

/-- Answering is none. -/
theorem guards_reply (session : Session state pending) (id : RequestId) (method : String)
    (result : Except Dispatch.Error Json) : session.Guards (session.reply id method result) := by
  cases result <;> exact ⟨rfl, rfl⟩

/-- Nor is a step of the lifecycle. -/
theorem guards_pass (session : Session state pending) (next : Lifecycle) :
    session.Guards (session.pass next) :=
  ⟨rfl, rfl⟩

/-- The end of a call ends the session, or the watch goes on. -/
theorem guards_conclude (session : Session state pending) (duty : Duty)
    (outcome : Engine.Outcome) (lasts : (session.conclude m duty outcome).2.hasEnded = false) :
    session.Guards (session.conclude m duty outcome).2 := by
  have told := guards_report session (Dispatch.outcomeEntries duty.operation.method outcome)
  cases duty with
  | opening id =>
    cases outcome with
    | result value =>
      exact told.trans (guards_reply _ id (Duty.opening id).operation.method (.ok value))
    | failed error => exact (told.trans (guards_pass _ _)).trans (guards_reply _ id _ (.error _))
    | broke reason => exact (told.trans (guards_pass _ _)).trans (guards_reply _ id _ (.error _))
  | shutdown id => exact told.trans (guards_reply _ id _ _)
  | exit =>
    have ended : (session.conclude m .exit outcome).2.hasEnded = true := by
      cases outcome <;> exact ended_terminate m _ .exit
    exact absurd (ended.symm.trans lasts) (by simp)
  | confirmation =>
    cases outcome with
    | result value => exact told
    | failed error => exact told.trans (guards_report _ _)
    | broke reason => exact told.trans (guards_report _ _)
  | notice notice =>
    cases outcome with
    | result value => exact told
    | failed error => exact told.trans (guards_report _ _)
    | broke reason => exact told.trans (guards_report _ _)

/-- Whatever the engine comes to in a message, the watch goes on as long as the session
lasts. -/
theorem guards_continueTurn (forwards : session.bridge.OnlyForwards) (duty : Duty)
    (answer : state × Engine.Turn pending)
    (lasts : (session.continueTurn m duty answer).2.hasEnded = false) :
    session.Guards (session.continueTurn m duty answer).2 := by
  have published := guards_published m forwards answer
  unfold continueTurn at lasts ⊢
  dsimp only at lasts ⊢
  split at lasts
  · next call progress =>
    refine published.trans ?_
    exact ⟨rfl, rfl⟩
  · next outcome progress =>
    refine (published.trans ?_).trans (guards_conclude _ duty outcome lasts)
    exact ⟨rfl, rfl⟩

/-- A task that is answered. -/
theorem guards_finish (session : Session state pending) (task : Task pending)
    (result : Except Dispatch.Error Json) : session.Guards (session.finish task result) := by
  have retired : session.Guards (session.retire task) := ⟨rfl, rfl⟩
  exact retired.trans (guards_reply _ task.id task.feature.method result)

/-- Whatever the engine comes to in a task, the watch goes on. -/
theorem guards_continueTask (forwards : session.bridge.OnlyForwards) (task : Task pending)
    (answer : state × Engine.Turn pending) :
    session.Guards (session.continueTask m task answer) := by
  have published := guards_published m forwards answer
  unfold continueTask
  dsimp only
  split
  · next call progress =>
    refine published.trans ?_
    exact ⟨rfl, rfl⟩
  · next outcome progress =>
    refine (published.trans ?_).trans (guards_finish _ task _)
    exact ⟨rfl, rfl⟩

/-- A task that goes on has nothing to do with the watch. -/
theorem guards_runTask (forwards : session.bridge.OnlyForwards) (ticket : Nat) :
    session.Guards (session.runTask m ticket) := by
  unfold runTask
  split
  · exact ⟨rfl, rfl⟩
  · next task found =>
    dsimp only
    split
    · split
      · exact guards_finish session task _
      · exact guards_continueTask forwards task _
    · exact guards_continueTask forwards task _

/-- A supervisor asks for the same process in every turn. -/
theorem guards_turnSupervisor (world : World) (number : Nat)
    (lasts : (session.turnSupervisor m world number).hasEnded = false) :
    session.Guards (session.turnSupervisor m world number) := by
  unfold Session.turnSupervisor at lasts ⊢
  dsimp only at lasts ⊢
  split at lasts
  · exact absurd ((ended_terminate m _ .clientGone).symm.trans lasts) (by simp)
  · next alive =>
    rw [if_neg alive]
    refine ⟨?_, Bridge.map_pid_turnSupervisor session.bridge number session.isCancelled world.now
      world.probe⟩
    unfold Bridge.turnSupervisor
    split <;> rfl

/-- Nobody is in charge of a session that has seen no message. -/
theorem charged_create (engine : state) (config : SessionConfig) :
    (Session.create engine config : Session state pending).Charged := by
  have free : (Session.create engine config : Session state pending).bridge.attached = none := rfl
  intro taken
  rw [free] at taken
  exact absurd taken (by simp)

/-- A process that is found alive is watched, unless one is watched already. -/
theorem catches_supervise (disposed : session.bridge.disposed = false) (charged : session.Charged)
    (world : World) (pid : Nat) :
    Catches ((some pid).filter world.finds) session (session.supervise world pid) := by
  unfold supervise
  split
  · next taken =>
    refine ⟨?_, charged⟩
    obtain ⟨first, hfirst⟩ := Option.isSome_iff_exists.mp (charged taken)
    rw [hfirst, Option.some_or]
  · next vacant =>
    have free : session.bridge.attached = none := by simpa using vacant
    have unwatched : session.watched? = none := by
      unfold watched?
      rw [free]
      rfl
    dsimp only
    split
    · next alive =>
      have started {later : Session state pending}
          (attached : later.bridge.attached = some session.bridge.supervisors.length)
          (supervisors : later.bridge.supervisors = session.bridge.supervisors ++
            [Supervisor.start pid session.config.pollInterval world.now]) :
          Catches ((some pid).filter world.finds) session later := by
        have watched : later.watched? = some pid := by
          unfold watched?
          rw [attached, supervisors, Option.bind_some, List.map_append,
            List.getElem?_append_right (by simp)]
          simp [Supervisor.start]
        refine ⟨watched.trans ?_, fun _ => watched ▸ rfl⟩
        rw [unwatched, Option.filter_some_pos (by rw [World.finds, alive]), Option.none_or]
      unfold Bridge.spawnSupervisor Bridge.attachSupervisor Bridge.report Bridge.stopAttached
      simp only [disposed, free, Bool.false_eq_true, if_false]
      exact started rfl rfl
    · next dead =>
      rw [Option.filter_some_neg (by rw [World.finds, dead])]
      exact Guards.catches ⟨rfl, rfl⟩ charged
    · next error unknown =>
      rw [Option.filter_some_neg (by rw [World.finds, unknown])]
      exact Guards.catches ⟨rfl, rfl⟩ charged

/-- The process that a client names, if it names one. -/
theorem catches_attend (disposed : session.bridge.disposed = false) (charged : session.Charged)
    (world : World) (pid : Option Nat) :
    Catches (pid.filter world.finds) session (session.attend world pid) := by
  cases pid with
  | none => exact Guards.catches ⟨rfl, rfl⟩ charged
  | some pid => exact catches_supervise disposed charged world pid

/-- A frame has the process watched that it names, whatever becomes of it otherwise. -/
theorem Coherent.catches_handleFrame (h : session.Coherent) (charged : session.Charged)
    (lives : session.hasEnded = false) (world : World) (payload : Bytes)
    (lasts : (session.handleFrame m world payload).2.hasEnded = false) :
    Catches (session.caught? world payload) session (session.handleFrame m world payload).2 := by
  have heard : Heard m world session payload (session.handleFrame m world payload).2 :=
    handleFrame_heard h lives
  generalize (session.handleFrame m world payload).2 = after at heard lasts ⊢
  cases heard with
  | unheard silent unmoved =>
    have nothing : session.caught? world payload = none := by
      unfold caught? named?
      rw [silent]
      rfl
    rw [nothing]
    exact (Guards.ofStill unmoved.toStill).catches charged
  | @asked told duty next call summons starts alike still =>
    have began : session.Guards told := .ofStill still
    have disposed : told.bridge.disposed = false := alike.disposed.trans (h.disposed.trans lives)
    have attended := catches_attend disposed (began.catches charged).charged world
      (session.named? payload)
    have forwards : (told.attend world (session.named? payload)).bridge.OnlyForwards :=
      (alike.trans (.attend told world _)).onlyForwards h.onlyForwards
    have asked := (guards_continueTurn forwards duty _ lasts).catches_trans attended
    exact ⟨asked.watched.trans (by rw [began.watched]; rfl), asked.charged⟩

/-- As long as a session lasts, nothing but a frame that names a process changes the watch. -/
theorem Coherent.catches_perform (h : session.Coherent) (charged : session.Charged)
    (act : Act state) (lasts : (session.perform m act).hasEnded = false) :
    Catches (session.catches? act) session (session.perform m act) := by
  have lives := h.lives_of_perform lasts
  have ended {told : Session state pending} {ending : Ending}
      (lasts : (told.terminate m ending).hasEnded = false) : False :=
    absurd ((ended_terminate m told ending).symm.trans lasts) (by simp)
  cases act with
  | receive world payload =>
    simp only [Session.perform, catches?] at lasts ⊢
    split
    · next reads =>
      rw [if_pos reads] at lasts
      exact h.catches_handleFrame charged lives world payload lasts
    · exact Guards.catches ⟨rfl, rfl⟩ charged
  | resume =>
    refine Guards.catches ?_ charged
    simp only [Session.perform, resumeTurn] at lasts ⊢
    split
    · exact ⟨rfl, rfl⟩
    · next goes =>
      rw [if_neg goes] at lasts
      split
      · exact ⟨rfl, rfl⟩
      · next turn waits =>
        rw [waits] at lasts
        exact guards_continueTurn h.onlyForwards turn.duty _ lasts
  | work ticket => exact (guards_runTask h.onlyForwards ticket).catches charged
  | watch world number => exact (guards_turnSupervisor world number lasts).catches charged
  | publish event =>
    have notified := Bridge.notified_emit m h.onlyForwards event
    exact Guards.catches ⟨notified.attached, congrArg _ notified.supervisors⟩ charged
  | stir change => exact Guards.catches ⟨rfl, rfl⟩ charged
  | note entries => exact Guards.catches ⟨rfl, rfl⟩ charged
  | take => exact Guards.catches ⟨rfl, rfl⟩ charged
  | dropReceiver =>
    refine Guards.catches ?_ charged
    simp only [Session.perform]
    split <;> exact ⟨rfl, rfl⟩
  | inputEnded => exact (ended lasts).elim
  | inputFailed fault =>
    simp only [Session.perform, inputFailed] at lasts
    split at lasts <;> exact (ended lasts).elim
  | outputFailed fault => exact (ended lasts).elim
  | close => exact (ended lasts).elim

end Steps

/-! ## The answer -/

/-- A message is answered in the last of some acts, and waits for the engine until then. -/
inductive AnsweredIn (m : Engine state pending) (id : RequestId) (answer : Answer) :
    Session state pending → List (Act state) → Prop where
  /-- The answer is queued, and the message waits no longer. -/
  | last {session : Session state pending} {act : Act state}
      (settled : (session.perform m act).turn = none)
      (replies : (session.perform m act).replies =
        session.replies ++ [Outgoing.response (some id) answer]) :
      AnsweredIn m id answer session [act]
  /-- The message waits. -/
  | wait {session : Session state pending} {act : Act state} {rest : List (Act state)}
      (waits : (session.perform m act).turn.isSome = true)
      (later : AnsweredIn m id answer (session.perform m act) rest) :
      AnsweredIn m id answer session (act :: rest)

/-- What becomes of an opening that is with the engine. -/
inductive Opening (session : Session state pending) (id : RequestId) :
    Session state pending → Prop where
  /-- It waits; the lifecycle moves on only if the session ends. -/
  | waits {after : Session state pending} (call : pending)
      (turn : after.turn = some ⟨.opening id, call⟩)
      (kept : after.hasEnded = true ∨ after.lifecycle = session.lifecycle) :
      Opening session id after
  /-- It is answered, and taken back if the answer is an error. -/
  | answered {after : Session state pending} (answer : Answer)
      (lives : session.hasEnded = false) (settled : after.turn = none)
      (replies : after.replies = session.replies ++ [Outgoing.response (some id) answer])
      (undone : ∀ error, answer = .error error →
        after.lifecycle = session.lifecycle.abortHandshake) : Opening session id after
  /-- It is cut off. -/
  | cut {after : Session state pending} (settled : after.turn = none)
      (replies : after.replies = session.replies) : Opening session id after

/-- A session that has ended, or that comes back to a lifecycle once the handshake is taken
back. -/
def Reverts (session : Session state pending) (lifecycle : Lifecycle) : Prop :=
  session.hasEnded = true ∨ session.lifecycle.abortHandshake = lifecycle

section Answers

variable {m : Engine state pending} {session : Session state pending} {id : RequestId}

/-- An opening that the engine has ended is answered. -/
theorem Coherent.opening_conclude (h : session.Coherent) (id : RequestId)
    (idle : session.turn = none) (phase : session.lifecycle.phase = .initializing)
    (outcome : Engine.Outcome) :
    session.Opening id (session.conclude m (.opening id) outcome).2 := by
  have lives : session.hasEnded = false := by simp [hasEnded, phase]
  have replied {told : Session state pending} {next : Lifecycle} (answer : Answer)
      (lasts : next.phase ≠ .exited) (alike : { session with lifecycle := next }.Alike told) :
      (told.send (.response (some id) answer)).replies =
        session.replies ++ [Outgoing.response (some id) answer] := by
    have coherent : told.Coherent := (h.withLifecycle lives idle lasts).alike alike
    have goes : told.hasEnded = false := by
      rw [alike.hasEnded]
      simpa [hasEnded] using lasts
    rw [coherent.replies_send goes, alike.replies]
    rfl
  have undone : session.lifecycle.abortHandshake.phase ≠ .exited := by
    rw [Lifecycle.abortHandshake, phase]
    simp
  have told := Alike.report session
    (Dispatch.outcomeEntries (Duty.opening id).operation.method outcome)
  cases outcome with
  | result value =>
    exact .answered (.result value) lives idle (replied _ (by simp [phase]) told)
      fun error same => absurd same (by simp)
  | failed error =>
    exact .answered _ lives idle
      (replied _ undone (((told.withLifecycle _).trans (.pass _ _)).trans (.report _ _)))
      fun _ _ => rfl
  | broke reason =>
    exact .answered _ lives idle
      (replied _ undone (((told.withLifecycle _).trans (.pass _ _)).trans (.report _ _)))
      fun _ _ => rfl

/-- What the engine comes to in an opening. -/
theorem Coherent.opening_continueTurn (h : session.Coherent) (id : RequestId)
    (phase : session.lifecycle.phase = .initializing) (answer : state × Engine.Turn pending) :
    session.Opening id (session.continueTurn m (.opening id) answer).2 := by
  have published : (session.withEngine answer.1).Alike
      ((session.withEngine answer.1).publish m answer.2.events) :=
    .publish m (h.withEngine answer.1).onlyForwards _
  unfold continueTurn
  dsimp only
  cases progress : answer.2.progress with
  | waiting call => exact .waits call rfl (.inr published.lifecycle)
  | done outcome =>
    have coherent := ((h.withEngine answer.1).alike published).withoutTurn
    have replies : ((session.withEngine answer.1).publish m answer.2.events).replies =
        session.replies := published.replies
    have lifecycle : ((session.withEngine answer.1).publish m answer.2.events).lifecycle =
        session.lifecycle := published.lifecycle
    have concluded := coherent.opening_conclude (m := m) id rfl (lifecycle ▸ phase) outcome
    cases concluded with
    | waits call turn kept =>
      exact .waits call turn (kept.imp_right fun same => same.trans lifecycle)
    | answered said lives settled hreplies undone =>
      have lives : session.hasEnded = false := by simp [hasEnded, phase]
      refine .answered said lives settled (hreplies.trans (congrArg (· ++ _) replies))
        fun error same => ?_
      exact (undone error same).trans (congrArg Lifecycle.abortHandshake lifecycle)
    | cut settled hreplies => exact .cut settled (hreplies.trans replies)

/-- An opening that waits is answered or cut off, or it goes on waiting. -/
theorem Coherent.opening_perform (h : session.Coherent) {call : pending}
    (waits : session.turn = some ⟨.opening id, call⟩) (act : Act state) :
    session.Opening id (session.perform m act) := by
  by_cases resumes : act = .resume
  · subst resumes
    simp only [Session.perform, resumeTurn, waits]
    split
    · exact .waits call waits (.inr rfl)
    · next goes =>
      have lives : session.hasEnded = false := by
        rw [← h.isCancelled]
        exact Bool.eq_false_iff.mpr goes
      exact h.opening_continueTurn id (h.fits lives waits) _
  · have performed : Performed m session act (session.perform m act) := perform_performed h act
    generalize session.perform m act = after at performed ⊢
    cases performed with
    | quiet unread kept other alike =>
      exact .waits call (alike.turn.trans waits) (.inr alike.lifecycle)
    | handled world payload lives idle upshot => exact absurd (idle.symm.trans waits) (by simp)
    | resumed turn lives waits continued => exact absurd rfl resumes
    | worked ticket worked =>
      exact .waits call (worked.turn.trans waits) (.inr worked.lifecycle)
    | stirred change => exact .waits call waits (.inr rfl)
    | taken => exact .waits call waits (.inr rfl)
    | dropped closed => exact .waits call waits (.inr rfl)
    | @ended act told ending turn unread kept other cut alike =>
      rcases cut with same | none
      · refine .waits call ?_ (.inl (ended_terminate m told ending))
        exact (turn_terminate m told ending).trans (alike.turn.trans (same.trans waits))
      · have coherent := (h.cut (.inr none)).alike alike
        refine .cut ?_ ((coherent.replies_terminate ending).trans alike.replies)
        exact (turn_terminate m told ending).trans (alike.turn.trans none)

/-- An opening that is answered with an error was taken back. -/
theorem Opening.lifecycle_of_refused {after : Session state pending} {lifecycle : Lifecycle}
    (h : session.Opening id after) (reverts : session.Reverts lifecycle)
    (settled : after.turn = none) {error : ResponseError}
    (replies : after.replies = session.replies ++ [Outgoing.response (some id) (.error error)]) :
    after.lifecycle = lifecycle := by
  cases h with
  | waits call turn kept => exact absurd (turn.symm.trans settled) (by simp)
  | answered answer lives settled' replies' undone =>
    have same : [Outgoing.response (some id) answer] =
        [Outgoing.response (some id) (.error error)] :=
      List.append_cancel_left (replies'.symm.trans replies)
    simp only [List.cons.injEq, Outgoing.response.injEq, true_and, and_true] at same
    have back := reverts.resolve_left (by simp [lives])
    exact (undone error same).trans back
  | cut settled' replies' =>
    have lengths := congrArg List.length (replies'.symm.trans replies)
    simp at lengths

/-- An opening that waits can still be taken back. -/
theorem Opening.reverts {after : Session state pending} {lifecycle : Lifecycle}
    (h : session.Opening id after) (reverts : session.Reverts lifecycle)
    (waits : after.turn.isSome = true) :
    (∃ call, after.turn = some ⟨.opening id, call⟩) ∧ after.Reverts lifecycle := by
  cases h with
  | waits call turn kept =>
    refine ⟨⟨call, turn⟩, ?_⟩
    rcases kept with ended | same
    · exact .inl ended
    · unfold Reverts hasEnded at *
      rw [same]
      exact reverts
  | answered answer lives settled replies undone => exact absurd waits (by simp [settled])
  | cut settled replies => exact absurd waits (by simp [settled])

/-- An opening that waits, and in the end is answered with an error, was taken back. -/
theorem AnsweredIn.lifecycle_of_waits {acts : List (Act state)} {error : ResponseError}
    (refused : AnsweredIn m id (.error error) session acts) (h : session.Coherent) {call : pending}
    (waits : session.turn = some ⟨.opening id, call⟩) {lifecycle : Lifecycle}
    (reverts : session.Reverts lifecycle) :
    (acts.foldl (Session.perform m) session).lifecycle = lifecycle := by
  induction refused generalizing call with
  | last settled replies =>
    exact (h.opening_perform waits _).lifecycle_of_refused reverts settled replies
  | wait still later ih =>
    obtain ⟨⟨call, turn⟩, reverts⟩ := (h.opening_perform waits _).reverts reverts still
    exact ih (h.perform _) turn reverts

/-- A request to open the handshake asks the engine for nothing else. -/
theorem duty_of_opening {payload : Bytes} {params : Json} {duty : Duty} {call : Engine.Call}
    (decoded : Incoming.decode payload = .ok (.request id "initialize" params))
    (summons : session.summons? payload = some (duty, call)) : duty = .opening id := by
  have routed : MethodTable.standard.route? "initialize" = some (.control .opening) := by
    decide +kernel
  unfold summons? at summons
  simp only [decoded, routed] at summons
  split at summons
  · obtain ⟨found, -, same⟩ := Option.map_eq_some_iff.mp summons
    exact (Prod.mk.inj same).1.symm
  · next shuts _ => exact absurd (Option.some.inj shuts) nofun
  · exact absurd summons nofun

/-- A handshake that is answered with an error was taken back. -/
theorem Coherent.lifecycle_of_refused (h : session.Coherent) {world : World} {payload : Bytes}
    {params : Json} (decoded : Incoming.decode payload = .ok (.request id "initialize" params))
    (reads : session.reads = true) {error : ResponseError} {later : List (Act state)}
    (refused : AnsweredIn m id (.error error) session (.receive world payload :: later)) :
    ((Act.receive world payload :: later).foldl (Session.perform m) session).lifecycle =
      session.lifecycle := by
  obtain ⟨idle, lives⟩ := h.reads_eq_true_iff.mp reads
  have performed : session.perform m (.receive world payload) =
      (session.handleFrame m world payload).2 := by
    simp only [Session.perform, reads, if_true]
  have heard : Heard m world session payload (session.perform m (.receive world payload)) :=
    performed ▸ handleFrame_heard h lives
  have coherent := h.perform (m := m) (.receive world payload)
  generalize hafter : session.perform m (.receive world payload) = after at heard coherent
  cases heard with
  | unheard silent unmoved =>
    cases refused with
    | last settled replies =>
      rw [List.foldl_cons, List.foldl_nil, hafter]
      exact unmoved.lifecycle
    | wait still later =>
      rw [hafter, unmoved.turn, idle] at still
      exact absurd still (by simp)
  | @asked told duty next call summons starts alike still =>
    obtain rfl := duty_of_opening decoded summons
    have attended := alike.trans (.attend told world (session.named? payload))
    obtain ⟨begun, fits⟩ := h.begun lives idle starts attended
    have opening := begun.opening_continueTurn (m := m) id fits
      (m.begin call none (told.attend world (session.named? payload)).bridge.engine)
    have reverts : (told.attend world (session.named? payload)).Reverts session.lifecycle :=
      .inr ((congrArg Lifecycle.abortHandshake attended.lifecycle).trans starts.abortHandshake)
    have replies : (told.attend world (session.named? payload)).replies = session.replies :=
      attended.replies
    cases refused with
    | last settled answered =>
      rw [List.foldl_cons, List.foldl_nil, hafter]
      rw [hafter] at settled answered
      exact opening.lifecycle_of_refused reverts settled (replies ▸ answered)
    | wait still later =>
      rw [hafter] at still later
      obtain ⟨⟨waiting, turn⟩, reverts⟩ := opening.reverts reverts still
      rw [List.foldl_cons, hafter]
      exact later.lifecycle_of_waits coherent turn reverts

/-- While a message waits no process is found. -/
theorem catches?_of_waits (waits : session.turn.isSome = true) (act : Act state) :
    session.catches? act = none := by
  cases act with
  | receive world payload =>
    have busy : session.reads = false := by
      unfold reads
      rw [Option.isNone_eq_false_iff.mpr waits]
      rfl
    simp [catches?, busy]
  | _ => rfl

end Answers

end Session

/-! ## Runs -/

namespace Chronicle

variable {state pending : Type} {m : Engine state pending} {chronicle : Chronicle state pending}

/-- The first process that is found while acts follow each other. -/
def catches? (m : Engine state pending) :
    Chronicle state pending → List (Session.Act state) → Option Nat
  | _, [] => none
  | chronicle, act :: rest =>
    (chronicle.session.catches? act).or (catches? m (chronicle.perform m act) rest)

/-- As long as a session lasts, the process that was found first is watched. -/
theorem catches_run (coherent : chronicle.session.Coherent) (charged : chronicle.session.Charged)
    (acts : List (Session.Act state)) (lasts : (chronicle.run m acts).session.hasEnded = false) :
    Session.Catches (chronicle.catches? m acts) chronicle.session
      (chronicle.run m acts).session := by
  induction acts generalizing chronicle with
  | nil => exact Session.Guards.catches ⟨rfl, rfl⟩ charged
  | cons act rest ih =>
    have began : (chronicle.perform m act).session.hasEnded = false := by
      cases ended : (chronicle.perform m act).session.hasEnded with
      | false => rfl
      | true =>
        have gone := (run_of_ended (m := m) (coherent.perform act) ended rest).1
        exact absurd (gone.symm.trans lasts) (by simp)
    have first := coherent.catches_perform charged act began
    obtain ⟨watched, last⟩ := ih (coherent.perform act) first.charged lasts
    refine ⟨watched.trans ?_, last⟩
    rw [catches?]
    exact (congrArg (Option.or · _) first.watched).trans Option.or_assoc

/-- While a message waits no process is found. -/
theorem catches?_of_answeredIn {id : RequestId} {answer : Answer} {session : Session state pending}
    {acts : List (Session.Act state)} (answered : Session.AnsweredIn m id answer session acts)
    (waits : session.turn.isSome = true) (same : chronicle.session = session) :
    chronicle.catches? m acts = none := by
  induction answered generalizing chronicle with
  | last settled replies =>
    subst same
    rw [catches?, Session.catches?_of_waits waits]
    rfl
  | wait still later ih =>
    subst same
    rw [catches?, Session.catches?_of_waits waits]
    exact ih still rfl

/-- The watch of a session after a handshake that failed. A request to open the handshake that
is answered with an error, at once or after any wait, takes the lifecycle back, so that the
next request finds the phase as this one did. It does not take the watch back: if no process
was watched before, and the client named one that was alive, then that one is watched from
then on, and stays so in whatever follows, as long as the session lasts. -/
theorem watched_of_refused (m : Engine state pending) (engine : state) (config : SessionConfig)
    (acts later : List (Session.Act state)) (world : Session.World) (payload : Bytes)
    (id : RequestId) (params : Json) (error : ResponseError)
    (decoded : Incoming.decode payload = .ok (.request id "initialize" params))
    (reads : ((start engine config).run m acts).session.reads = true)
    (refused : Session.AnsweredIn m id (.error error) ((start engine config).run m acts).session
      (.receive world payload :: later)) :
    let before := (start engine config).run m acts
    let after := before.run m (.receive world payload :: later)
    after.session.lifecycle = before.session.lifecycle ∧
      after.session.watched? =
        before.session.watched?.or (before.session.caught? world payload) ∧
      ∀ rest, (after.run m rest).session.hasEnded = false →
        (after.run m rest).session.watched? =
          after.session.watched?.or (after.catches? m rest) := by
  intro before after
  have coherent : before.session.Coherent := coherent_run_start m engine config acts
  have lives : before.session.hasEnded = false := (coherent.reads_eq_true_iff.mp reads).2
  have charged : before.session.Charged :=
    (catches_run (.create engine config) (Session.charged_create engine config) acts lives).charged
  have lifecycle : after.session.lifecycle = before.session.lifecycle := by
    rw [session_run]
    exact coherent.lifecycle_of_refused decoded reads refused
  have lasts : after.session.hasEnded = false := by
    unfold Session.hasEnded at lives ⊢
    rw [lifecycle, lives]
  have during := catches_run coherent charged _ lasts
  refine ⟨lifecycle, ?_, fun rest goes => ?_⟩
  · have found : before.catches? m (.receive world payload :: later) =
        before.session.caught? world payload := by
      rw [catches?, Session.catches?, if_pos reads]
      cases refused with
      | last settled replies => exact Option.or_none
      | wait still answered =>
        rw [catches?_of_answeredIn answered still rfl]
        exact Option.or_none
    exact found ▸ during.watched
  · exact (catches_run (coherent_run coherent _) during.charged rest goes).watched

/-! ## Fixed inputs -/

namespace Sample

/-- An engine that fails the first opening of the handshake, and accepts any other. -/
def reluctant : Engine Bool Empty where
  begin := fun call _ failed =>
    match call.operation, failed with
    | .opening, false => (true, .ended (.failed (.failed "no" none)))
    | operation, _ => (failed, .ended (Engine.defaultOutcome operation))
  resume := fun pending => pending.elim
  dispose := fun failed => (failed, [])

/-- A request to open the handshake that names a process. -/
def opening (id pid : String) : Bytes :=
  request id "initialize" ("\x7b\"processId\":" ++ pid ++ ",\"capabilities\":\x7b\x7d\x7d")

/-- A world in which every process is alive. -/
def lively : Session.World := ⟨0, fun _ => .ok true⟩

/-- Whether a frame holds the request to open the handshake under an identifier. -/
def opens (id : RequestId) (payload : Bytes) : Bool :=
  match Incoming.decode payload with
  | .ok (.request other method _) => other == id && method == "initialize"
  | _ => false

/-- Whether responses are one error under an identifier. -/
def refuses (id : RequestId) : List Outgoing → Bool
  | [.response (some other) (.error _)] => other == id
  | _ => false

/-- Such a frame decodes to the request. -/
theorem decode_of_opens {id : RequestId} {payload : Bytes} (asks : opens id payload = true) :
    ∃ params, Incoming.decode payload = .ok (.request id "initialize" params) := by
  unfold opens at asks
  split at asks
  · next other method params decoded =>
    obtain ⟨same, opening⟩ := (Bool.and_eq_true _ _).mp asks
    exact ⟨params, by rw [decoded, beq_iff_eq.mp same, beq_iff_eq.mp opening]⟩
  · exact absurd asks (by simp)

/-- Such responses are one error. -/
theorem eq_of_refuses {id : RequestId} {replies : List Outgoing}
    (refused : refuses id replies = true) :
    ∃ error, replies = [.response (some id) (.error error)] := by
  unfold refuses at refused
  split at refused
  · next other error => exact ⟨error, by rw [beq_iff_eq.mp refused]⟩
  · exact absurd refused (by simp)

/-- A session whose first handshake names the process 7 and fails. -/
def rebuffed : Chronicle Bool Empty :=
  (start false ⟨2000, 1000⟩).run reluctant [.receive lively (opening "0" "7")]

end Sample

set_option maxRecDepth 2000 in
/-- The process that was named in a handshake that failed is watched, although the next
handshake, which succeeds, names another one. -/
theorem watched_of_refused_retried : ∃ error,
    Session.AnsweredIn Sample.reluctant (.number 0) (.error error)
      (start false ⟨2000, 1000⟩).session [.receive Sample.lively (Sample.opening "0" "7")] ∧
    Sample.rebuffed.session.lifecycle = .fresh ∧ Sample.rebuffed.session.watched? = some 7 ∧
    let retried := Sample.rebuffed.run Sample.reluctant
      [.receive Sample.lively (Sample.opening "1" "8")]
    retried.session.lifecycle.phase = .initializing ∧ retried.session.watched? = some 7 := by
  have facts : ((start false ⟨2000, 1000⟩ : Chronicle Bool Empty).session.reads = true ∧
      Sample.rebuffed.session.turn.isNone = true ∧
      ((start false ⟨2000, 1000⟩ : Chronicle Bool Empty).session.caught? Sample.lively
        (Sample.opening "0" "7")) = some 7) ∧
      Sample.opens (.number 0) (Sample.opening "0" "7") = true ∧
      Sample.refuses (.number 0) Sample.rebuffed.session.replies = true := by
    decide +kernel
  obtain ⟨⟨reads, idle, caught⟩, asks, refuses⟩ := facts
  obtain ⟨params, decoded⟩ := Sample.decode_of_opens asks
  obtain ⟨error, replies⟩ := Sample.eq_of_refuses refuses
  have refused : Session.AnsweredIn Sample.reluctant (.number 0) (.error error)
      (start false ⟨2000, 1000⟩).session [.receive Sample.lively (Sample.opening "0" "7")] :=
    .last (Option.isNone_iff_eq_none.mp idle) replies
  obtain ⟨lifecycle, watched, stays⟩ := watched_of_refused Sample.reluctant false ⟨2000, 1000⟩ [] []
    Sample.lively (Sample.opening "0" "7") (.number 0) params error decoded reads refused
  have first : Sample.rebuffed.session.watched? = some 7 := watched.trans caught
  have retried : (Sample.rebuffed.run Sample.reluctant
      [.receive Sample.lively (Sample.opening "1" "8")]).session.lifecycle.phase =
        .initializing := by
    decide +kernel
  refine ⟨error, refused, lifecycle, first, retried, ?_⟩
  refine (stays [.receive Sample.lively (Sample.opening "1" "8")] ?_).trans ?_
  · unfold Session.hasEnded
    exact (congrArg (· == Phase.exited) retried).trans rfl
  · exact (congrArg (Option.or · _) first).trans rfl

end Chronicle

end LspGateway
