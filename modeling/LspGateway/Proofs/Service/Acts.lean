import LspGateway.Proofs.Session.Ending
import LspGateway.Proofs.Session.Forgetting
import LspGateway.Service.Command

/-!
# Serving a session is a run of acts

A service is a session with the jobs that keep it going: one reads, one writes, and the
requests and supervisors go on by themselves. Whatever happens to a service, and in
whatever order its jobs have their turns, it takes one of a few steps at a time, and in
each of them acts of the session follow each other. So what holds after every run of acts
holds of every session that is served, and what a service shows of itself is read off its
steps.
-/

namespace LspGateway

namespace Session

variable {state pending : Type} {m : Engine state pending} {session : Session state pending}

/-! ## The message that waits -/

/-- A message waits only after a frame was received. -/
theorem Coherent.turn_perform (h : session.Coherent) {act : Act state}
    (other : ∀ world payload, act ≠ .receive world payload) (idle : session.turn = none) :
    (session.perform m act).turn = none := by
  have performed : Performed m session act (session.perform m act) := perform_performed h act
  generalize session.perform m act = after at performed ⊢
  cases performed with
  | quiet unread kept others alike => exact alike.turn.trans idle
  | handled world payload lives free hu => exact absurd rfl (other world payload)
  | resumed turn lives waits hc => exact absurd (idle.symm.trans waits) (by simp)
  | worked ticket hw => exact hw.turn.trans idle
  | stirred change => exact idle
  | taken => exact idle
  | dropped closed => exact idle
  | @ended _ told ending turn unread kept others cut alike =>
    rw [turn_terminate]
    refine (show told.turn = turn from alike.turn).trans ?_
    rcases cut with rfl | rfl
    · exact idle
    · rfl

/-! ## The end of reading -/

/-- The session has ended if no further message is to be handled. -/
def Stops (result : Flow × Session state pending) : Prop :=
  result.1 = .stop → result.2.hasEnded = true

/-- Whoever reads on has nothing to show. -/
theorem stops_on (session : Session state pending) : Stops (.on, session) :=
  nofun

/-- Only the exit stops the reading. -/
theorem stops_conclude (duty : Duty) (outcome : Engine.Outcome) :
    Stops (session.conclude m duty outcome) := by
  unfold conclude
  dsimp only
  split
  · exact stops_on _
  · exact stops_on _
  · exact stops_on _
  · exact stops_on _
  · exact stops_on _
  · exact fun _ => ended_terminate m _ .exit
  · exact fun _ => ended_terminate m _ .exit
  · exact stops_on _
  · exact stops_on _

/-- Going on with a message. -/
theorem stops_continueTurn (duty : Duty) (answer : state × Engine.Turn pending) :
    Stops (session.continueTurn m duty answer) := by
  unfold continueTurn
  dsimp only
  split
  · exact stops_on _
  · exact stops_conclude duty _

/-- Asking the engine, if it is there. -/
theorem stops_ask_unless_released (answered : Session state pending) (duty : Duty)
    (call : Engine.Call) :
    Stops (if session.bridge.released then (.on, answered) else session.ask m duty call) := by
  split
  · exact stops_on answered
  · exact stops_continueTurn duty _

/-- Going on with the message that waits. -/
theorem stops_resumeTurn : Stops (session.resumeTurn m) := by
  unfold resumeTurn
  split
  · exact stops_on _
  · next turn _ => exact stops_continueTurn turn.duty _

/-- Handling a request. -/
theorem stops_handleRequest (world : World) (id : RequestId) (method : String) (params : Json) :
    Stops (session.handleRequest m world id method params) := by
  unfold handleRequest
  split
  · exact stops_on _
  · unfold openHandshake
    split
    · exact stops_on _
    · dsimp only
      split
      · exact stops_on _
      · split <;> exact stops_ask_unless_released _ _ _
  · unfold shutDown
    split
    · exact stops_on _
    · exact stops_ask_unless_released _ _ _
  · exact stops_on _
  · exact stops_on _
  · exact stops_on _

/-- Handling a notification. -/
theorem stops_handleNotification (method : String) (params : Json) :
    Stops (session.handleNotification m method params) := by
  unfold handleNotification
  split
  · exact stops_on _
  · unfold confirmHandshake
    split
    · exact stops_on _
    · exact stops_ask_unless_released _ _ _
  · unfold leave
    dsimp only
    split
    · exact fun _ => ended_terminate m _ .exit
    · exact stops_continueTurn _ _
  · exact stops_on _
  · exact stops_on _
  · exact stops_on _
  · unfold forward
    split
    · exact stops_on _
    · split
      · exact stops_on _
      · split
        · exact stops_continueTurn _ _
        · exact stops_on _

/-- Handling a frame. -/
theorem stops_handleFrame (world : World) (payload : Bytes) :
    Stops (session.handleFrame m world payload) := by
  unfold handleFrame
  split
  · exact stops_handleRequest _ _ _ _
  · exact stops_handleNotification _ _
  · exact stops_on _
  · exact stops_on _

end Session

namespace Service

variable {state pending : Type}

/-! ## Steps -/

/-- What gives an act of the session its time; the input is what is left of it then. -/
inductive Due (service : Service state pending) : Session.Act state → Input → Prop where
  /-- A frame was read while nothing is in the way of handling it. -/
  | received (payload fields : Bytes) (input : Input) (reading : service.phase = .reading)
      (reads : service.session.reads = true)
      (read : service.input.read service.session.config.frameLimit =
        (.frame payload fields, input)) :
      Due service (.receive service.world payload) input
  /-- The input has ended between frames. -/
  | inputEnded (input : Input) (reading : service.phase = .reading)
      (read : service.input.read service.session.config.frameLimit = (.finished, input)) :
      Due service .inputEnded input
  /-- The input is at fault. -/
  | inputFailed (fault : Frame.Fault) (unread : Bytes) (input : Input)
      (reading : service.phase = .reading)
      (read : service.input.read service.session.config.frameLimit =
        (.fault fault unread, input)) :
      Due service (.inputFailed fault) input
  /-- The message that waits may go on at any time. -/
  | resumed : Due service .resume service.input
  /-- So may a task. -/
  | worked (ticket : Nat) : Due service (.work ticket) service.input
  /-- So may a supervisor. -/
  | watched (number : Nat) : Due service (.watch service.world number) service.input
  /-- The engine may publish an event at any time. -/
  | published (event : Event) : Due service (.publish event) service.input
  /-- The engine may come to something at any time. -/
  | stirred (change : state → state) : Due service (.stir change) service.input

/-- What happens beside the session. -/
inductive Aside (service : Service state pending) : Service state pending → Prop where
  /-- Jobs are put into another order. -/
  | arranged (queue waiting : List Job) (cancellable : List Nat) (listening : List Job) :
      Aside service { service with
        queue := queue
        waiting := waiting
        cancellable := cancellable
        listening := listening }
  /-- Input arrives. -/
  | arrived (piece : Piece) : Aside service { service with input := service.input.arrive piece }
  /-- No more input will arrive. -/
  | exhausted : Aside service { service with input := service.input.finish }
  /-- What has arrived is not enough for a frame. -/
  | starved (input : Input)
      (read : service.input.read service.session.config.frameLimit = (.starved, input)) :
      Aside service { service with input := input }
  /-- The world changes. -/
  | changed (world : Session.World) : Aside service { service with world := world }

/-- One step of a service, and the acts of its session in it. -/
inductive Step (m : Engine state pending) (service : Service state pending) :
    List (Session.Act state) → Service state pending → Prop where
  /-- Something happens beside the session. -/
  | aside {after : Service state pending} (aside : service.Aside after) : Step m service [] after
  /-- The service begins. -/
  | begun (unstarted : service.phase = .unstarted) :
      Step m service [.note [startedEntry]]
        { service with
          session := service.session.report [startedEntry]
          phase := .reading
          writing := .running }
  /-- The time of an act has come. -/
  | acted (act : Session.Act state) (input : Input) (due : service.Due act input) :
      Step m service [act]
        { service with session := service.session.perform m act, input := input }
  /-- All messages that wait are written. -/
  | wrote (sink : Sink) (running : service.writing = .running)
      (written :
        writeMessages service.sink service.session.bridge.outbound.queued = (sink, .ok ())) :
      Step m service [.take]
        { service with session := service.session.perform m .take, sink := sink }
  /-- A message cannot be written; nobody writes from then on. -/
  | failed (sink : Sink) (fault : Frame.Fault) (entries : List Log.Entry)
      (running : service.writing = .running)
      (written :
        writeMessages service.sink service.session.bridge.outbound.queued = (sink, .error fault)) :
      Step m service [.take, .outputFailed fault, .note entries, .dropReceiver]
        { service with
          session := [.take, .outputFailed fault, .note entries, .dropReceiver].foldl
            (Session.perform m) service.session
          sink := sink.shutdown.1
          writing := .finished }
  /-- The session has ended and nothing waits to be written; nobody writes from then on. -/
  | drained (entries : List Log.Entry) (running : service.writing = .running)
      (ended : service.session.hasEnded = true)
      (empty : service.session.bridge.outbound.queued = []) :
      Step m service [.note entries, .dropReceiver]
        { service with
          session := [.note entries, .dropReceiver].foldl (Session.perform m) service.session
          sink := service.sink.shutdown.1
          writing := .finished }
  /-- The session has ended; nobody reads from then on. -/
  | closed (reading : service.phase = .reading) (ended : service.session.hasEnded = true) :
      Step m service [.close]
        { service with session := service.session.perform m .close, phase := .closing }
  /-- Nobody reads or writes any more; the service tells how the session ended. -/
  | finished (closing : service.phase = .closing) (done : service.writing = .finished) :
      Step m service [.note [finishedEntry service.session.outcome]]
        { service with
          session := service.session.report [finishedEntry service.session.outcome]
          phase := .finished service.session.outcome }
  /-- The service is given up. -/
  | abandoned (lasts : ∀ outcome, service.phase ≠ .finished outcome) :
      Step m service [.close]
        { service with session := service.session.perform m .close, phase := .abandoned }

/-- Steps lead from one service to another, with acts of the session in them. -/
inductive Leads (m : Engine state pending) (service : Service state pending) :
    List (Session.Act state) → Service state pending → Prop where
  /-- Nothing has happened. -/
  | refl : Leads m service [] service
  /-- One more step is taken. -/
  | step {acts more : List (Session.Act state)} {middle after : Service state pending}
      (leads : Leads m service acts middle) (step : Step m middle more after) :
      Leads m service (acts ++ more) after

section Steps

variable {m : Engine state pending} {service after : Service state pending}
  {acts : List (Session.Act state)}

/-- What happens beside the session leaves it, and what is said and written of it. -/
theorem Aside.same (aside : service.Aside after) :
    after.session = service.session ∧ after.phase = service.phase ∧
      after.writing = service.writing ∧ after.sink = service.sink := by
  cases aside <;> exact ⟨rfl, rfl, rfl, rfl⟩

/-- The session changes by the acts of a step. -/
theorem Step.session (step : Step m service acts after) :
    after.session = acts.foldl (Session.perform m) service.session := by
  cases step with
  | aside aside => exact aside.same.1
  | _ => rfl

/-- The session changes by acts alone. -/
theorem Leads.session (leads : Leads m service acts after) :
    after.session = acts.foldl (Session.perform m) service.session := by
  induction leads with
  | refl => rfl
  | step leads step ih => rw [step.session, ih, List.foldl_append]

/-- One step. -/
theorem Leads.single (step : Step m service acts after) : Leads m service acts after :=
  Leads.refl.step step

/-- Steps follow each other. -/
theorem Leads.trans {middle : Service state pending} {more : List (Session.Act state)}
    (first : Leads m service acts middle) (second : Leads m middle more after) :
    Leads m service (acts ++ more) after := by
  induction second with
  | refl => rwa [List.append_nil]
  | step leads step ih =>
    rw [← List.append_assoc]
    exact ih.step step

/-- Acts that follow each other keep a session coherent. -/
theorem coherent_foldl {session : Session state pending} (h : session.Coherent)
    (acts : List (Session.Act state)) : (acts.foldl (Session.perform m) session).Coherent := by
  rw [← Chronicle.session_run m ⟨session, [], []⟩]
  exact Chronicle.coherent_run h acts

/-- A step keeps the session coherent. -/
theorem Step.coherent (step : Step m service acts after) (h : service.session.Coherent) :
    after.session.Coherent := by
  rw [step.session]
  exact coherent_foldl h acts

/-- Before a service begins, no message waits for the engine. -/
def Idle (service : Service state pending) : Prop :=
  service.phase = .unstarted → service.session.turn = none

/-- A message waits only after one of the acts received a frame. -/
theorem turn_foldl {session : Session state pending} (h : session.Coherent)
    (idle : session.turn = none)
    (others : ∀ act ∈ acts, ∀ world payload, act ≠ .receive world payload) :
    (acts.foldl (Session.perform m) session).turn = none := by
  induction acts generalizing session with
  | nil => exact idle
  | cons act rest ih =>
    exact ih (h.perform act) (h.turn_perform (others act List.mem_cons_self) idle)
      fun other member => others other (List.mem_cons_of_mem act member)

/-- A step does not let a message wait before the service begins. -/
theorem Step.idle (step : Step m service acts after) (h : service.session.Coherent)
    (idle : service.Idle) : after.Idle := by
  cases step with
  | aside aside =>
    obtain ⟨session, phase, -⟩ := aside.same
    intro unstarted
    rw [session]
    exact idle (phase ▸ unstarted)
  | acted act input due =>
    intro unstarted
    have silent (other : ∀ world payload, act ≠ .receive world payload) :
        (service.session.perform m act).turn = none := h.turn_perform other (idle unstarted)
    cases due with
    | received payload fields input reading reads read =>
      exact absurd (reading.symm.trans unstarted) (by simp)
    | _ => exact silent nofun
  | wrote sink running written =>
    intro unstarted
    have taken : ([.take].foldl (Session.perform m) service.session).turn = none :=
      turn_foldl h (idle unstarted) (by simp)
    exact taken
  | failed sink fault entries running written =>
    exact fun unstarted => turn_foldl h (idle unstarted) (by simp)
  | drained entries running ended empty =>
    exact fun unstarted => turn_foldl h (idle unstarted) (by simp)
  | begun unstarted => exact nofun
  | closed reading ended => exact nofun
  | finished closing done => exact nofun
  | abandoned lasts => exact nofun

end Steps

/-! ## The queue of jobs -/

/-- Waking jobs puts the queue in another order. -/
theorem wakeAll_eq (service : Service state pending) (jobs : List Job) :
    ∃ queue, service.wakeAll jobs = { service with queue := queue } := by
  induction jobs generalizing service with
  | nil => exact ⟨service.queue, rfl⟩
  | cons job rest ih =>
    obtain ⟨queue, hqueue⟩ := ih (service.wake job)
    refine ⟨queue, hqueue.trans ?_⟩
    unfold wake
    split <;> rfl

/-- Taking up a change of the session is taking over the session, and arranging the jobs. -/
theorem follow_eq (service : Service state pending) (after : Session state pending) :
    ∃ queue waiting cancellable listening, service.follow after =
      { service with
        session := after
        queue := queue
        waiting := waiting
        cancellable := cancellable
        listening := listening } := by
  obtain ⟨queue, hqueue⟩ := wakeAll_eq { service with
    session := after
    waiting := service.waiting.filter (held after).contains ++
      (held after).filter fun job => !service.waiting.contains job
    cancellable := ((tickets service.session).filter fun ticket =>
      !(tickets after).contains ticket).foldl swapOut service.cancellable ++
        (tickets after).filter (service.session.nextTicket ≤ ·)
    listening := if after.isCancelled then [] else service.listening }
    (service.stirred service.session after)
  exact ⟨queue, _, _, _, hqueue⟩

/-- A service that has come of another by steps. -/
structure Served (m : Engine state pending) (start service : Service state pending) : Prop where
  /-- Steps lead to it. -/
  leads : ∃ acts, Leads m start acts service
  /-- Its session is coherent. -/
  coherent : service.session.Coherent
  /-- Nothing waits before the beginning. -/
  idle : service.Idle

namespace Served

variable {m : Engine state pending} {start service after : Service state pending}

/-- A service that nothing was done for. -/
theorem create (m : Engine state pending) (engine : state) (config : SessionConfig) (sink : Sink)
    (probe : Nat → Except Supervisor.ProbeError Bool) :
    Served m (.create engine config sink probe) (.create engine config sink probe) :=
  ⟨⟨[], .refl⟩, .create engine config, fun _ => rfl⟩

/-- A service that has come of another by steps has steps of its own before it. -/
theorem renew (h : Served m start service) : Served m service service :=
  ⟨⟨[], .refl⟩, h.coherent, h.idle⟩

/-- One more step. -/
theorem step (h : Served m start service) {acts : List (Session.Act state)}
    (step : Step m service acts after) : Served m start after := by
  obtain ⟨before, leads⟩ := h.leads
  exact ⟨⟨before ++ acts, leads.step step⟩, step.coherent h.coherent, step.idle h.coherent h.idle⟩

/-- Jobs are put into another order. -/
theorem arrange (h : Served m start service) (queue waiting : List Job) (cancellable : List Nat)
    (listening : List Job) :
    Served m start { service with
      queue := queue
      waiting := waiting
      cancellable := cancellable
      listening := listening } :=
  h.step (.aside (.arranged queue waiting cancellable listening))

/-- Listening is a matter of order. -/
theorem listen (h : Served m start service) (job : Job) : Served m start (service.listen job) :=
  h.arrange _ _ _ _

/-- So is waking jobs. -/
theorem wakeAll (h : Served m start service) (jobs : List Job) :
    Served m start (service.wakeAll jobs) := by
  obtain ⟨queue, hqueue⟩ := wakeAll_eq service jobs
  rw [hqueue]
  exact h.arrange _ _ _ _

/-- A change of the session is taken up. -/
theorem follow {session : Session state pending}
    (h : Served m start { service with session := session }) :
    Served m start (service.follow session) := by
  obtain ⟨queue, waiting, cancellable, listening, hfollow⟩ := follow_eq service session
  rw [hfollow]
  exact h.arrange queue waiting cancellable listening

/-- The time of an act has come, and the change is taken up. -/
theorem act (h : Served m start service) {act : Session.Act state} {input : Input}
    (due : service.Due act input) :
    Served m start ({ service with input := input }.follow (service.session.perform m act)) :=
  follow (h.step (.acted act input due))

/-! ## Reading -/

/-- The end of a service. -/
theorem finish (h : Served m start service) (closing : service.phase = .closing) :
    Served m start service.finish := by
  unfold Service.finish
  split
  · next done => exact h.step (.finished closing (by simpa using done))
  · exact h

/-- Reading no more. -/
theorem close (h : Served m start service) (reading : service.phase = .reading)
    (ended : service.session.hasEnded = true) : Served m start (service.close m) := by
  unfold Service.close
  obtain ⟨queue, waiting, cancellable, listening, hfollow⟩ :=
    follow_eq service (service.session.perform m .close)
  have closed : Served m start { service.follow (service.session.perform m .close) with
      phase := .closing } := by
    rw [hfollow]
    exact (h.step (.closed reading ended)).arrange queue waiting cancellable listening
  exact closed.finish rfl

/-- A service that reads, and whether it goes on to the next message: only if none waits
for the engine. -/
structure Reads (m : Engine state pending) (start : Service state pending)
    (result : Bool × Service state pending) : Prop where
  /-- Steps lead to the service. -/
  served : Served m start result.2
  /-- It goes on only as long as it reads. -/
  reading : result.1 = true → result.2.phase = .reading
  /-- It goes on only if no message waits. -/
  idle : result.1 = true → result.2.session.turn = none

/-- A service that does not go on. -/
theorem rests (h : Served m start service) : Reads m start (false, service) :=
  ⟨h, nofun, nofun⟩

/-- What became of a message is taken up. -/
theorem settleMessage {result : Session.Flow × Session state pending}
    (h : Served m start { service with session := result.2 }) (reading : service.phase = .reading)
    (stops : Session.Stops result) : Reads m start (service.settleMessage m result) := by
  obtain ⟨queue, waiting, cancellable, listening, hfollow⟩ := follow_eq service result.2
  have phase : (service.follow result.2).phase = .reading := by
    rw [hfollow]
    exact reading
  unfold Service.settleMessage
  dsimp only
  split
  · next stop =>
    refine rests (h.follow.close phase ?_)
    rw [hfollow]
    exact stops stop
  · exact ⟨h.follow.listen .serving, fun _ => phase, fun idle => Option.isNone_iff_eq_none.mp idle⟩

/-- The next message is handled. -/
theorem readMessage (h : Served m start service) (reading : service.phase = .reading)
    (idle : service.session.turn = none) : Reads m start (service.readMessage m) := by
  unfold Service.readMessage
  split
  · next cancelled => exact rests (h.close reading (h.coherent.isCancelled.symm.trans cancelled))
  · next lasts =>
    have reads : service.session.reads = true := by
      unfold Session.reads
      rw [idle, Bool.eq_false_iff.mpr lasts]
      rfl
    -- After the end of the input and after a fault, the session has ended.
    have last (act : Session.Act state) (ends : act.ends = true) {input : Input}
        (due : service.Due act input) : Reads m start
          (false, ({ service with input := input }.follow (service.session.perform m act)).close
            m) := by
      obtain ⟨queue, waiting, cancellable, listening, hfollow⟩ :=
        follow_eq { service with input := input } (service.session.perform m act)
      refine rests ((h.act due).close ?_ ?_)
      · rw [hfollow]
        exact reading
      · rw [hfollow]
        exact h.coherent.hasEnded_of_ends ends
    cases hread : service.input.read service.session.config.frameLimit with
    | mk result input =>
      cases result with
      | starved => exact rests (h.step (.aside (.starved input hread)))
      | frame payload fields =>
        have due := Due.received payload fields input reading reads hread
        have received := h.step (Step.acted (m := m) _ _ due)
        simp only [Session.perform, reads, if_true] at received
        exact settleMessage received reading (Session.stops_handleFrame service.world payload)
      | finished => exact last .inputEnded rfl (.inputEnded input reading hread)
      | fault fault fields =>
        exact last (.inputFailed fault) rfl (.inputFailed fault fields input reading hread)

/-- Messages are handled one after the other. -/
theorem readMessages (fuel : Nat) (h : Served m start service) (reading : service.phase = .reading)
    (idle : service.session.turn = none) :
    Served m start (Service.readMessages m fuel service) := by
  induction fuel generalizing service with
  | zero => exact h
  | succ fuel ih =>
    have reads := h.readMessage reading idle
    unfold Service.readMessages
    split
    · next next hnext =>
      rw [hnext] at reads
      exact ih reads.served (reads.reading rfl) (reads.idle rfl)
    · next next hnext =>
      rw [hnext] at reads
      exact reads.served

/-- The message that waits goes on. -/
theorem resumeMessage (h : Served m start service) (reading : service.phase = .reading) :
    Reads m start (service.resumeMessage m) := by
  unfold Service.resumeMessage
  split
  · next idle => exact ⟨h, fun _ => reading, fun _ => Option.isNone_iff_eq_none.mp idle⟩
  · split
    · next cancelled => exact rests (h.close reading (h.coherent.isCancelled.symm.trans cancelled))
    · next lasts =>
      have resumed := h.step (Step.acted (m := m) .resume service.input .resumed)
      simp only [Session.perform, if_neg lasts] at resumed
      dsimp only
      split
      · exact rests resumed.follow
      · exact settleMessage resumed reading Session.stops_resumeTurn

/-- The service begins. -/
theorem begin (h : Served m start service) (unstarted : service.phase = .unstarted) :
    Served m start service.begin ∧ service.begin.phase = .reading ∧
      service.begin.session.turn = none := by
  obtain ⟨queue, hqueue⟩ := wakeAll_eq { service with
    session := service.session.report [startedEntry]
    phase := .reading
    writing := .running } [.writing]
  have begun := ((h.step (m := m) (.begun unstarted)).wakeAll [.writing]).listen .serving
  refine ⟨begun, ?_, ?_⟩
  · exact congrArg Service.phase hqueue
  · exact (congrArg (fun s => s.session.turn) hqueue).trans (h.idle unstarted)

/-- The turn of the one who reads. -/
theorem turnServing (h : Served m start service) : Served m start (service.turnServing m) := by
  unfold Service.turnServing
  split
  · next unstarted =>
    obtain ⟨begun, reading, idle⟩ := h.begin unstarted
    exact begun.readMessages _ reading idle
  · next reading =>
    have reads := h.resumeMessage reading
    split
    · next next hnext =>
      rw [hnext] at reads
      exact reads.served.readMessages _ (reads.reading rfl) (reads.idle rfl)
    · next next hnext =>
      rw [hnext] at reads
      exact reads.served
  · next closing => exact h.finish closing
  · exact h
  · exact h

/-! ## The other jobs -/

/-- Writing no more shuts the stream and drops the queue. -/
theorem closeWriting_eq (service : Service state pending) : ∃ entries queue,
    service.closeWriting = { service with
      session := (service.session.report entries).withOutbound
        service.session.bridge.outbound.dropReceiver
      sink := service.sink.shutdown.1
      writing := .finished
      queue := queue } := by
  have woken (entries : List Log.Entry) := wakeAll_eq { service with
    session := (service.session.report entries).withOutbound
      service.session.bridge.outbound.dropReceiver
    sink := service.sink.shutdown.1
    writing := .finished } [.serving]
  unfold Service.closeWriting
  dsimp only
  split
  · cases service.sink.shutdown.2 with
    | ok done =>
      obtain ⟨queue, hqueue⟩ := woken []
      exact ⟨[], queue, hqueue⟩
    | error fault =>
      obtain ⟨queue, hqueue⟩ := woken [unclosedEntry fault]
      exact ⟨[unclosedEntry fault], queue, hqueue⟩
  · exact ⟨_, service.queue, rfl⟩

/-- Once the session has ended, the queue loses its receiver with those who write. -/
theorem foldl_dropReceiver {session : Session state pending} (h : session.Coherent)
    (ended : session.hasEnded = true) (entries : List Log.Entry) :
    [.note entries, .dropReceiver].foldl (Session.perform m) session =
      (session.report entries).withOutbound session.bridge.outbound.dropReceiver := by
  have closed : (session.report entries).bridge.outbound.isOpen = false := h.closed ended
  simp only [List.foldl_cons, List.foldl_nil, Session.perform, closed, Bool.false_eq_true, if_false]
  rfl

/-- The turn of the one who writes. -/
theorem turnWriting (h : Served m start service) : Served m start (service.turnWriting m) := by
  unfold Service.turnWriting
  split
  · exact h
  · next hrunning =>
    have running : service.writing = .running := by simpa using hrunning
    cases hwritten : writeMessages service.sink service.session.bridge.outbound.queued with
    | mk sink written =>
      have taken := h.coherent.perform (m := m) .take
      dsimp only [Outbound.take]
      rw [hwritten]
      cases written with
      | error fault =>
        have failed := taken.perform (m := m) (.outputFailed fault)
        have ended : ((service.session.perform m .take).perform m
            (.outputFailed fault)).hasEnded = true := taken.hasEnded_of_ends rfl
        obtain ⟨queue, waiting, cancellable, listening, hfollow⟩ := follow_eq
          { service with session := service.session.perform m .take, sink := sink }
          ((service.session.perform m .take).perform m (.outputFailed fault))
        obtain ⟨entries, others, hclose⟩ := closeWriting_eq
          (({ service with session := service.session.perform m .take, sink := sink }).follow
            ((service.session.perform m .take).perform m (.outputFailed fault)))
        have left := (h.step (Step.failed (m := m) sink fault entries running hwritten)).arrange
          others waiting cancellable listening
        rw [List.foldl_cons, List.foldl_cons, foldl_dropReceiver failed ended] at left
        refine (congrArg (Served m start) ?_).mpr left
        refine hclose.trans ?_
        rw [hfollow]
      | ok done =>
        have wrote := h.step (Step.wrote (m := m) sink running hwritten)
        dsimp only
        split
        · exact wrote
        · next hclosed =>
          have ended : (service.session.perform m .take).hasEnded = true := by
            have isOpen := taken.isOpen
            rw [show (service.session.perform m .take).bridge.outbound.isOpen = false from
              Bool.eq_false_iff.mpr hclosed] at isOpen
            simpa using isOpen.symm
          obtain ⟨entries, queue, hclose⟩ := closeWriting_eq
            { service with session := service.session.perform m .take, sink := sink }
          have left := (wrote.step (Step.drained (m := m) entries running ended rfl)).arrange
            queue service.waiting service.cancellable service.listening
          rw [foldl_dropReceiver taken ended] at left
          exact (congrArg (Served m start) hclose).mpr left

/-- The turn of a supervisor. -/
theorem turnSupervising (h : Served m start service) (number : Nat) :
    Served m start (service.turnSupervising m number) := by
  have followed := h.act (.watched number)
  unfold Service.turnSupervising
  dsimp only
  split
  · exact followed.listen (.supervising number)
  · exact followed

/-- The turn of a job. -/
theorem turn (h : Served m start service) (job : Job) : Served m start (service.turn m job) := by
  cases job with
  | serving => exact h.turnServing
  | writing => exact h.turnWriting
  | request ticket => exact h.act (.worked ticket)
  | supervising number => exact h.turnSupervising number

/-- The turn of a job that was taken from the queue. -/
theorem turn_of_queue (h : Served m start service) (queue : List Job) (job : Job) :
    Served m start ({ service with queue := queue }.turn m job) :=
  (h.arrange queue service.waiting service.cancellable service.listening).turn job

/-- Jobs have their turns. -/
theorem settleTurns (fuel : Nat) (h : Served m start service) :
    Served m start (Service.settleTurns m fuel service) := by
  induction fuel generalizing service with
  | zero => exact h
  | succ fuel ih =>
    unfold Service.settleTurns
    split
    · exact h
    · next job queue _ => exact ih (h.turn_of_queue queue job)

/-! ## Commands -/

/-- The clock is moved. -/
theorem clock (h : Served m start service) (now : Nat) :
    Served m start { service with world := { service.world with now := now } } :=
  h.step (.aside (.changed { service.world with now := now }))

/-- Time passes. -/
theorem passTime (fuel target : Nat) (h : Served m start service) :
    Served m start (Service.passTime m fuel target service) := by
  induction fuel generalizing service with
  | zero => exact h.clock target
  | succ fuel ih =>
    unfold Service.passTime
    split
    · exact h.clock target
    · next due _ =>
      exact ih (((h.clock (max service.world.now due)).wakeAll _).settleTurns Agenda.patience)

/-- Whoever waits for input goes on. -/
theorem feed {input : Input} (h : Served m start { service with input := input }) :
    Served m start (service.feed input) := by
  unfold Service.feed
  dsimp only
  split
  · exact h.wakeAll [.serving]
  · exact h

/-- A command is carried out. -/
theorem apply (h : Served m start service) (command : Command state) :
    Served m start (service.apply m command).2 := by
  cases command with
  | arrive piece => exact (h.step (.aside (.arrived piece))).feed
  | endInput => exact (h.step (.aside .exhausted)).feed
  | emit event => exact h.act (.published event)
  | stir change =>
    exact (h.step (.acted (.stir change) service.input (.stirred change))).wakeAll service.waiting
  | probe probe => exact h.step (.aside (.changed { service.world with probe := probe }))
  | advance time => exact (h.settleTurns Agenda.patience).passTime _ _
  | abandon =>
    have gone (lasts : ∀ outcome, service.phase ≠ .finished outcome) : Served m start
        { service.follow (service.session.perform m .close) with phase := .abandoned } := by
      obtain ⟨queue, waiting, cancellable, listening, hfollow⟩ :=
        follow_eq service (service.session.perform m .close)
      rw [hfollow]
      exact (h.step (.abandoned lasts)).arrange queue waiting cancellable listening
    unfold Service.apply Service.abandon
    dsimp only
    split
    · exact h
    · exact h
    · next other _ => exact gone other

end Served

/-! ## Moves -/

/-- What may happen next to a service whose jobs have their turns in any order. -/
inductive Move (state : Type) where
  /-- A job has its turn, whether it waits for it or not. -/
  | turn (job : Job)
  /-- A command is given. -/
  | given (command : Command state)
  /-- The clock goes on. -/
  | clock (now : Nat)

/-- Makes a move. -/
def move (m : Engine state pending) (service : Service state pending) :
    Move state → Service state pending
  | .turn job => { service with queue := service.queue.erase job }.turn m job
  | .given command => (service.apply m command).2
  | .clock now => { service with world := { service.world with now := now } }

/-- Makes moves, one after the other. -/
def moves (m : Engine state pending) (service : Service state pending)
    (moves : List (Move state)) : Service state pending :=
  moves.foldl (move m) service

/-- Turns in the order of the queue are moves. -/
theorem exists_moves_settleTurns (m : Engine state pending) (fuel : Nat)
    (service : Service state pending) :
    ∃ turns, service.settleTurns m fuel = service.moves m turns := by
  induction fuel generalizing service with
  | zero => exact ⟨[], rfl⟩
  | succ fuel ih =>
    unfold settleTurns
    split
    · exact ⟨[], rfl⟩
    · next job queue hqueue =>
      obtain ⟨turns, hturns⟩ := ih ({ service with queue := queue }.turn m job)
      refine ⟨.turn job :: turns, hturns.trans ?_⟩
      unfold moves
      rw [List.foldl_cons]
      simp only [move, hqueue, List.erase_cons_head]

/-- Whatever commands a service is given one after the other, it makes moves. -/
theorem exists_moves_run (m : Engine state pending) (service : Service state pending)
    (commands : List (Command state)) :
    ∃ made, commands.foldl (fun service command => (service.run m command).2) service =
      service.moves m made := by
  induction commands generalizing service with
  | nil => exact ⟨[], rfl⟩
  | cons command rest ih =>
    obtain ⟨turns, hturns⟩ := exists_moves_settleTurns m Agenda.patience (service.apply m command).2
    obtain ⟨made, hmade⟩ := ih (service.run m command).2
    refine ⟨.given command :: turns ++ made, hmade.trans ?_⟩
    change moves m ((service.apply m command).2.settleTurns m Agenda.patience) made = _
    rw [hturns]
    exact List.foldl_append.symm

/-- Steps lead to whatever comes of moves. -/
theorem Served.moves {m : Engine state pending} {start service : Service state pending}
    (h : Served m start service) (made : List (Move state)) :
    Served m start (service.moves m made) := by
  induction made generalizing service with
  | nil => exact h
  | cons move rest ih =>
    cases move with
    | turn job => exact ih (h.turn_of_queue _ job)
    | given command => exact ih (h.apply command)
    | clock now => exact ih (h.clock now)

/-- Steps lead from a new service to whatever comes of moves. -/
theorem served_moves (m : Engine state pending) (engine : state) (config : SessionConfig)
    (sink : Sink) (probe : Nat → Except Supervisor.ProbeError Bool) (made : List (Move state)) :
    Served m (.create engine config sink probe)
      ((create engine config sink probe).moves m made) :=
  (Served.create m engine config sink probe).moves made

/-- Whatever commands a service is given, acts lead to its session, and the engine may keep a
record of what it was asked for in them. -/
theorem exists_recorded (m : Engine state pending) (engine : state) (config : SessionConfig)
    (sink : Sink) (probe : Nat → Except Supervisor.ProbeError Bool)
    (commands : List (Command state)) :
    ∃ acts, (Chronicle.recorded m engine config acts).forget.session =
      (commands.foldl (fun service command => (service.run m command).2)
        (create engine config sink probe)).session := by
  obtain ⟨made, hmade⟩ := exists_moves_run m (create engine config sink probe) commands
  obtain ⟨acts, leads⟩ := (served_moves m engine config sink probe made).leads
  refine ⟨acts, ?_⟩
  rw [hmade, leads.session, Chronicle.forget_recorded, Chronicle.session_run]
  rfl

end Service

end LspGateway
