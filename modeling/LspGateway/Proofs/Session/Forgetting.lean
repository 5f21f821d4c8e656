import LspGateway.Proofs.Session.Discipline

/-!
# A record changes nothing

An engine that keeps a record is to a session what the engine is that it wraps: to
forget the record after an act is to perform the act without it. So what is said of
the record in runs with one is said of the calls in runs without.
-/

namespace LspGateway

open Engine

variable {state pending : Type}

/-! ## Bridges -/

namespace Bridge

/-- A bridge without the record of its engine. -/
def forget (bridge : Bridge (Recorded state)) : Bridge state where
  engine := bridge.engine.engine
  hub := bridge.hub
  gates := bridge.gates
  released := bridge.released
  disposed := bridge.disposed
  recorded := bridge.recorded
  supervisors := bridge.supervisors
  attached := bridge.attached
  outbound := bridge.outbound
  journal := bridge.journal

variable {m : Engine state pending}

/-- Whether the engine was given away does not depend on the record. -/
@[simp] theorem forget_released (bridge : Bridge (Recorded state)) :
    bridge.forget.released = bridge.released := rfl

/-- Whether the bridge was torn down does not depend on the record. -/
@[simp] theorem forget_disposed (bridge : Bridge (Recorded state)) :
    bridge.forget.disposed = bridge.disposed := rfl

/-- Who is in charge does not depend on the record. -/
@[simp] theorem forget_attached (bridge : Bridge (Recorded state)) :
    bridge.forget.attached = bridge.attached := rfl

/-- The gates do not depend on the record. -/
@[simp] theorem forget_gateOpen (bridge : Bridge (Recorded state)) (gate : Nat) :
    bridge.forget.gateOpen gate = bridge.gateOpen gate := rfl

/-- What is forwarded does not come from the engine. -/
theorem forget_forward (bridge : Bridge (Recorded state)) (gate : Nat) (event : Event) :
    bridge.forget.forward gate event = (bridge.forward gate event).forget := by
  cases hopen : bridge.gateOpen gate with
  | true => simp only [forward, forget_gateOpen, hopen, if_true]; rfl
  | false => simp only [forward, forget_gateOpen, hopen, Bool.false_eq_true, if_false]; rfl

/-- Giving the engine away disposes of it, with or without a record. -/
theorem forget_release (bridge : Bridge (Recorded state)) :
    release m bridge.forget =
      ((release m.recording bridge).1.forget, (release m.recording bridge).2) := by
  cases hgiven : bridge.released with
  | true => simp only [release, forget_released, hgiven, if_true]
  | false => simp only [release, forget_released, hgiven, Bool.false_eq_true, if_false]; rfl

/-- The teardown asks the engine only to dispose of itself. -/
theorem forget_tearDown (bridge : Bridge (Recorded state)) :
    tearDown m bridge.forget =
      ((tearDown m.recording bridge).1.forget, (tearDown m.recording bridge).2) := by
  have undone (records : List Record) (b : Bridge (Recorded state)) :
      records.foldl (fun bridge record => bridge.unsubscribe (!bridge.released) record) b.forget =
        (records.foldl (fun bridge record => bridge.unsubscribe (!bridge.released) record)
          b).forget := by
    induction records generalizing b with
    | nil => rfl
    | cons record rest ih => exact ih (b.unsubscribe (!b.released) record)
  -- Whoever is in charge is stopped, then the engine is given away.
  have conclude (stopped : Bridge (Recorded state)) (other : Bridge state)
      (same : other = stopped.forget) :
      ((release m other).1, (release m other).2 ++ [Task.conclude bridge.recorded.length]) =
        ((release m.recording stopped).1.forget,
          (release m.recording stopped).2 ++ [Task.conclude bridge.recorded.length]) := by
    rw [same, forget_release]
  have cleared := undone bridge.recorded
    { bridge with disposed := true, recorded := [], attached := none }
  cases hdisposed : bridge.disposed with
  | true => simp only [tearDown, forget_disposed, hdisposed, if_true]; rfl
  | false =>
    simp only [tearDown, forget_disposed, hdisposed, Bool.false_eq_true, if_false,
      forget_attached]
    cases hattached : bridge.attached with
    | none => exact conclude _ _ cleared
    | some number =>
      exact conclude _ _ (congrArg (fun cleared => cleared.stopSupervisor number) cleared)

/-- Supervisors are put in charge without the engine. -/
theorem forget_attachSupervisor (bridge : Bridge (Recorded state)) (number : Nat) :
    (bridge.forget.attachSupervisor number).2 = (bridge.attachSupervisor number).2.forget := by
  cases hdisposed : bridge.disposed with
  | true => simp only [attachSupervisor, forget_disposed, hdisposed, if_true]; rfl
  | false =>
    simp only [attachSupervisor, forget_disposed, hdisposed, Bool.false_eq_true, if_false,
      stopAttached, forget_attached]
    cases bridge.attached <;> rfl

/-- Supervisors have their turns without the engine. -/
theorem forget_turnSupervisor (bridge : Bridge (Recorded state)) (number : Nat) (cancelled : Bool)
    (now : Nat) (probe : Nat → Except Supervisor.ProbeError Bool) :
    bridge.forget.turnSupervisor number cancelled now probe =
      ((bridge.turnSupervisor number cancelled now probe).1,
        (bridge.turnSupervisor number cancelled now probe).2.forget) := by
  have hsame : bridge.forget.supervisor? number = bridge.supervisor? number := rfl
  simp only [turnSupervisor, hsame]
  cases bridge.supervisor? number <;> rfl

/-- Every task comes to the same. -/
theorem forget_work (task : Task) (bridge : Bridge (Recorded state)) :
    work m task bridge.forget =
      ((work m.recording task bridge).1.forget, (work m.recording task bridge).2) := by
  cases task with
  | deliver handler event =>
    cases handler with
    | forward gate => exact congrArg (·, []) (forget_forward bridge gate event)
    | react acts => rfl
  | perform act =>
    cases act with
    | tearDown => exact forget_tearDown bridge
    | _ => rfl
  | conclude subscriptions => rfl

/-- Agendas are worked off in the same way. -/
theorem forget_settle (bridge : Bridge (Recorded state)) (agenda : List Task) :
    bridge.forget.settle m agenda =
      ((bridge.settle m.recording agenda).1.forget, (bridge.settle m.recording agenda).2) :=
  Agenda.run_map forget forget_work _ agenda bridge

/-- Events are published in the same way. -/
theorem forget_emit (bridge : Bridge (Recorded state)) (event : Event) :
    (bridge.forget.emit m event).2.1 = (bridge.emit m.recording event).2.1.forget :=
  congrArg Prod.fst (forget_settle bridge (bridge.deliveries event))

end Bridge

/-! ## Sessions -/

namespace Session

/-- How far a request has come, without the number of its call. -/
def Stage.forget : Stage (Nat × pending) → Stage pending
  | .spawned params => .spawned params
  | .waiting call => .waiting call.2

/-- A task without the number of its call. -/
def Task.forget (task : Task (Nat × pending)) : Task pending where
  ticket := task.ticket
  id := task.id
  feature := task.feature
  handle := task.handle
  stage := task.stage.forget

/-- A message that waits, without the number of its call. -/
def Turn.forget (turn : Turn (Nat × pending)) : Turn pending :=
  ⟨turn.duty, turn.call.2⟩

/-- A session without the record of its engine. -/
def forget (session : Session (Recorded state) (Nat × pending)) : Session state pending where
  config := session.config
  lifecycle := session.lifecycle
  registry := session.registry
  bridge := session.bridge.forget
  tasks := session.tasks.map Task.forget
  turn := session.turn.map Turn.forget
  nextTicket := session.nextTicket
  probed := session.probed

/-- Whether a session reads on, and the session without the record of its engine. -/
def forgetFlow (result : Flow × Session (Recorded state) (Nat × pending)) :
    Flow × Session state pending :=
  (result.1, result.2.forget)

/-- What the engine says, without the record. -/
def forgetAnswer (answer : Recorded state × Engine.Turn (Nat × pending)) :
    state × Engine.Turn pending :=
  (answer.1.engine, ⟨answer.2.events,
    match answer.2.progress with
    | .done outcome => .done outcome
    | .waiting call => .waiting call.2⟩)

/-- What is noted is what was said. -/
theorem forgetAnswer_noteTurn (record : List Entry) (number : Nat)
    (answer : state × Engine.Turn pending) :
    forgetAnswer (noteTurn record number answer) = answer := by
  obtain ⟨engine, events, progress⟩ := answer
  cases progress <;> rfl

section Forget

variable {m : Engine state pending} (session : Session (Recorded state) (Nat × pending))

/-- The lifecycle does not depend on the record. -/
@[simp] theorem forget_lifecycle : session.forget.lifecycle = session.lifecycle := rfl

/-- The registry does not depend on the record. -/
@[simp] theorem forget_registry : session.forget.registry = session.registry := rfl

/-- The bridge is the one without the record. -/
@[simp] theorem forget_bridge : session.forget.bridge = session.bridge.forget := rfl

/-- Whether the session was told to stop does not depend on the record. -/
@[simp] theorem forget_isCancelled : session.forget.isCancelled = session.isCancelled := rfl

/-- Answers do not depend on the record. -/
theorem forget_reply (id : RequestId) (method : String) (result : Except Dispatch.Error Json) :
    session.forget.reply id method result = (session.reply id method result).forget := by
  cases result <;> rfl

/-- Events are published in the same way. -/
theorem forget_publish (events : List Event) :
    session.forget.publish m events = (session.publish m.recording events).forget := by
  have emitted (bridge : Bridge (Recorded state)) :
      events.foldl (fun bridge event => (bridge.emit m event).2.1) bridge.forget =
        (events.foldl (fun bridge event => (bridge.emit m.recording event).2.1) bridge).forget := by
    induction events generalizing bridge with
    | nil => rfl
    | cons event rest ih =>
      rw [List.foldl_cons, List.foldl_cons, Bridge.forget_emit]
      exact ih _
  simp only [publish, forget, emitted]

/-- The end comes in the same way. -/
theorem forget_terminate (ending : Ending) :
    session.forget.terminate m ending = (session.terminate m.recording ending).forget := by
  have settled := Bridge.forget_settle (m := m) session.bridge [.perform .tearDown]
  have torn : session.forget.tearDown m = (session.tearDown m.recording).forget := by
    have hbridge : (session.forget.bridge.runOnce m).2.1 =
        ((session.bridge.runOnce m.recording).2.1).forget := congrArg Prod.fst settled
    simp only [tearDown, hbridge]
    rfl
  cases hnext : session.lifecycle.terminate? ending with
  | none => simp only [terminate, forget_lifecycle, hnext]
  | some next =>
    simp only [terminate, forget_lifecycle, hnext, torn]
    rfl

/-- Duties end in the same way. -/
theorem forget_conclude (duty : Duty) (outcome : Engine.Outcome) :
    conclude m session.forget duty outcome =
      forgetFlow (conclude m.recording session duty outcome) := by
  have left (told : Session (Recorded state) (Nat × pending)) :
      (Flow.stop, told.forget.terminate m .exit) =
        forgetFlow (Flow.stop, told.terminate m.recording .exit) :=
    congrArg (Flow.stop, ·) (forget_terminate told .exit)
  cases duty with
  | exit =>
    cases outcome with
    | result value => exact left (session.report _)
    | failed error => exact left ((session.report _).report _)
    | broke reason => exact left ((session.report _).report _)
  | _ => cases outcome <;> rfl

/-- What the engine says is taken up in the same way. -/
theorem forget_continueTurn (duty : Duty)
    (answer : Recorded state × Engine.Turn (Nat × pending)) :
    continueTurn m session.forget duty (forgetAnswer answer) =
      forgetFlow (continueTurn m.recording session duty answer) := by
  have published := forget_publish (m := m) (session.withEngine answer.1) answer.2.events
  obtain ⟨recorded, events, progress⟩ := answer
  cases progress with
  | done outcome =>
    have concluded := forget_conclude (m := m)
      (((session.withEngine recorded).publish m.recording events).withTurn none) duty outcome
    refine Eq.trans ?_ concluded
    exact congrArg (fun told => conclude m (told.withTurn none) duty outcome) published
  | waiting call =>
    exact congrArg (fun told => (Flow.on, told.withTurn (some ⟨duty, call.2⟩))) published

/-- The engine is asked in the same way. -/
theorem forget_ask (duty : Duty) (call : Engine.Call) :
    ask m session.forget duty call = forgetFlow (ask m.recording session duty call) := by
  have asked := forget_continueTurn (m := m) session duty
    (m.recording.begin call none session.bridge.engine)
  refine Eq.trans ?_ asked
  exact congrArg (continueTurn m session.forget duty) (forgetAnswer_noteTurn _ _ _).symm

/-- The message that waits goes on in the same way. -/
theorem forget_resumeTurn :
    resumeTurn m session.forget = forgetFlow (resumeTurn m.recording session) := by
  cases waits : session.turn with
  | none =>
    have hsame : session.forget.turn = none := by simp [forget, waits]
    simp only [resumeTurn, hsame, waits]
    rfl
  | some turn =>
    have hsame : session.forget.turn = some turn.forget := by simp [forget, waits]
    have resumed := forget_continueTurn (m := m) session turn.duty
      (m.recording.resume turn.call none session.bridge.engine)
    simp only [resumeTurn, hsame, waits]
    refine Eq.trans ?_ resumed
    exact congrArg (continueTurn m session.forget turn.duty) (forgetAnswer_noteTurn _ _ _).symm

/-! ## Messages -/

/-- The process of the client is watched in the same way. -/
theorem forget_supervise (world : World) (pid : Nat) :
    session.forget.supervise world pid = (session.supervise world pid).forget := by
  have attached (bridge : Bridge (Recorded state)) (number : Nat) :=
    Bridge.forget_attachSupervisor bridge number
  cases hattached : session.bridge.attached.isSome with
  | true => simp only [supervise, forget_bridge, Bridge.forget_attached, hattached, if_true]
  | false =>
    simp only [supervise, forget_bridge, Bridge.forget_attached, hattached, Bool.false_eq_true,
      if_false]
    cases world.probe pid with
    | error error => rfl
    | ok alive =>
      cases alive with
      | false => rfl
      | true =>
        let spawned :=
          session.bridge.spawnSupervisor pid session.config.pollInterval world.now
        exact congrArg (fun bridge => ({ session.forget with
          bridge := bridge, probed := pid :: session.probed } : Session state pending))
          (attached spawned.2 spawned.1)

/-- The engine is asked in the same way, unless it was given away. -/
theorem forget_askUnless (told otherwise : Session (Recorded state) (Nat × pending)) (flow : Flow)
    (duty : Duty) (call : Engine.Call) :
    (if told.forget.bridge.released then (flow, otherwise.forget)
      else ask m told.forget duty call) =
    forgetFlow (if told.bridge.released then (flow, otherwise)
      else ask m.recording told duty call) := by
  cases hreleased : told.bridge.released with
  | true =>
    simp only [forget_bridge, Bridge.forget_released, hreleased, if_true]
    rfl
  | false =>
    simp only [forget_bridge, Bridge.forget_released, hreleased, Bool.false_eq_true, if_false]
    exact forget_ask told duty call

/-- The handshake is opened in the same way. -/
theorem forget_openHandshake (world : World) (id : RequestId) (params : Json) :
    openHandshake m world session.forget id params =
      forgetFlow (openHandshake m.recording world session id params) := by
  cases hnext : session.lifecycle.beginHandshake with
  | error error =>
    simp only [openHandshake, forget_lifecycle, hnext]
    rfl
  | ok next =>
    simp only [openHandshake, forget_lifecycle, hnext]
    cases Dispatch.decode .opening params with
    | error error => rfl
    | ok call =>
      dsimp only
      cases (call.params.get? "processId").bind Json.nat? with
      | none =>
        exact forget_askUnless (session.pass next)
          ((session.pass next).reply id "initialize" (.error .engineReleased)) .on (.opening id) call
      | some pid =>
        have watched := forget_supervise (session.pass next) world pid
        have asked := forget_askUnless (m := m) ((session.pass next).supervise world pid)
          (((session.pass next).supervise world pid).reply id "initialize" (.error .engineReleased))
          .on (.opening id) call
        rw [← forget_reply, ← watched] at asked
        exact asked

/-- The handshake is confirmed in the same way. -/
theorem forget_confirmHandshake :
    confirmHandshake m session.forget = forgetFlow (confirmHandshake m.recording session) := by
  cases hnext : session.lifecycle.completeHandshake? with
  | none =>
    simp only [confirmHandshake, forget_lifecycle, hnext]
    rfl
  | some next =>
    simp only [confirmHandshake, forget_lifecycle, hnext]
    exact forget_askUnless (session.pass next) (session.pass next) .on .confirmation _

/-- The shutdown begins in the same way. -/
theorem forget_shutDown (id : RequestId) :
    shutDown m session.forget id = forgetFlow (shutDown m.recording session id) := by
  cases hnext : session.lifecycle.beginShutdown with
  | error error =>
    simp only [shutDown, forget_lifecycle, hnext]
    rfl
  | ok next =>
    simp only [shutDown, forget_lifecycle, hnext]
    exact forget_askUnless (session.pass next)
      ((session.pass next).reply id "shutdown" (.error .engineReleased)) .on (.shutdown id) _

/-- The client leaves in the same way. -/
theorem forget_leave : leave m session.forget = forgetFlow (leave m.recording session) := by
  let told := session.report [⟨.info, .session, "exit received",
    [("after_shutdown", .flag session.lifecycle.shutdownRequested)]⟩]
  have asked := forget_askUnless (m := m) told (told.terminate m.recording .exit) .stop .exit
    ⟨.exit, .null⟩
  rw [← forget_terminate] at asked
  exact asked

/-- Requests are cancelled without the engine. -/
theorem forget_cancel (params : Json) :
    session.forget.cancel params = (session.cancel params).forget := by
  unfold cancel
  dsimp only
  split
  · rfl
  · split <;> rfl

/-- Requests are taken in without the engine. -/
theorem forget_spawn (id : RequestId) (feature : Engine.Feature) (params : Json) :
    session.forget.spawn id feature params = (session.spawn id feature params).forget := by
  cases hadmits : session.lifecycle.admitRequest feature.method with
  | error error =>
    simp only [spawn, forget_lifecycle, hadmits]
    rfl
  | ok admitted =>
    simp only [spawn, forget_lifecycle, hadmits]
    cases hreleased : session.bridge.released with
    | true =>
      simp only [forget_bridge, Bridge.forget_released, hreleased, if_true]
      rfl
    | false =>
      simp only [forget_bridge, Bridge.forget_released, forget_registry, hreleased,
        Bool.false_eq_true, if_false]
      cases session.registry.register id with
      | error error => rfl
      | ok registered =>
        simp only [forget, report, List.map_append, List.map_cons, List.map_nil]
        rfl

/-- Requests are handled in the same way. -/
theorem forget_handleRequest (world : World) (id : RequestId) (method : String) (params : Json) :
    handleRequest m world session.forget id method params =
      forgetFlow (handleRequest m.recording world session id method params) := by
  unfold handleRequest
  cases MethodTable.standard.route? method with
  | none => rfl
  | some route =>
    cases route with
    | control control =>
      cases control with
      | opening => exact forget_openHandshake session world id params
      | shutdown => exact forget_shutDown session id
      | _ => rfl
    | notice notice => rfl
    | feature feature => exact congrArg (Flow.on, ·) (forget_spawn session id feature params)

/-- Notifications are passed on in the same way. -/
theorem forget_forward (notice : Engine.Notice) (params : Json) :
    forward m session.forget notice params =
      forgetFlow (forward m.recording session notice params) := by
  cases hadmits : session.lifecycle.admitsNotifications with
  | false =>
    simp only [forward, forget_lifecycle, hadmits, Bool.not_false, if_true]
    rfl
  | true =>
    simp only [forward, forget_lifecycle, hadmits, Bool.not_true, Bool.false_eq_true, if_false]
    cases Dispatch.decode (.notice notice) params with
    | ok call => exact forget_askUnless session session .on (.notice notice) call
    | error error =>
      cases hreleased : session.bridge.released with
      | true =>
        simp only [forget_bridge, Bridge.forget_released, hreleased, if_true]
        rfl
      | false =>
        simp only [forget_bridge, Bridge.forget_released, hreleased, Bool.false_eq_true, if_false]
        rfl

/-- Notifications are handled in the same way. -/
theorem forget_handleNotification (method : String) (params : Json) :
    handleNotification m session.forget method params =
      forgetFlow (handleNotification m.recording session method params) := by
  unfold handleNotification
  cases MethodTable.standard.route? method with
  | none => rfl
  | some route =>
    cases route with
    | control control =>
      cases control with
      | confirmation => exact forget_confirmHandshake session
      | exit => exact forget_leave session
      | cancel => exact congrArg (Flow.on, ·) (forget_cancel session params)
      | _ => rfl
    | notice notice => exact forget_forward session notice params
    | feature feature => rfl

/-- Frames are handled in the same way. -/
theorem forget_handleFrame (world : World) (payload : Bytes) :
    handleFrame m world session.forget payload =
      forgetFlow (handleFrame m.recording world session payload) := by
  unfold handleFrame
  cases Incoming.decode payload with
  | error rejection => rfl
  | ok message =>
    cases message with
    | request id method params => exact forget_handleRequest session world id method params
    | notification method params => exact forget_handleNotification session method params
    | response id result error => rfl

/-! ## Tasks -/

/-- Tasks keep their tickets. -/
theorem forget_task? (ticket : Nat) :
    session.forget.task? ticket = (session.task? ticket).map Task.forget := by
  simp only [task?, forget, List.find?_map]
  rfl

/-- Tasks are answered in the same way. -/
theorem forget_finish (task : Task (Nat × pending)) (result : Except Dispatch.Error Json) :
    session.forget.finish task.forget result = (session.finish task result).forget := by
  unfold finish
  rw [← forget_reply]
  refine congrArg (fun told : Session state pending => told.reply task.id task.feature.method result) ?_
  simp only [forget, List.filter_map]
  rfl

/-- Tasks wait in the same way. -/
theorem forget_park (task : Task (Nat × pending)) (call : Nat × pending) :
    session.forget.park task.forget call.2 = (session.park task call).forget := by
  simp only [park, forget, List.map_map]
  refine congrArg (fun tasks => ({ session.forget with tasks := tasks } : Session state pending)) ?_
  refine List.map_congr_left fun other _ => ?_
  change (if other.ticket == task.ticket then _ else _) = Task.forget (if _ then _ else _)
  cases other.ticket == task.ticket <;> rfl

/-- What the engine says is taken up in tasks in the same way. -/
theorem forget_continueTask (task : Task (Nat × pending))
    (answer : Recorded state × Engine.Turn (Nat × pending)) :
    continueTask m session.forget task.forget (forgetAnswer answer) =
      (continueTask m.recording session task answer).forget := by
  have published := forget_publish (m := m) (session.withEngine answer.1) answer.2.events
  obtain ⟨recorded, events, progress⟩ := answer
  let told := (session.withEngine recorded).publish m.recording events
  cases progress with
  | done outcome =>
    have finished := forget_finish
      (told.report (Dispatch.outcomeEntries task.feature.method outcome)) task
      (Dispatch.conclude task.feature.method outcome)
    refine Eq.trans ?_ finished
    exact congrArg (fun told => (Session.report told _).finish task.forget _) published
  | waiting call =>
    refine Eq.trans ?_ (forget_park told task call)
    exact congrArg (fun told => Session.park told task.forget call.2) published

/-- Tasks go on in the same way. -/
theorem forget_runTask (ticket : Nat) :
    session.forget.runTask m ticket = (session.runTask m.recording ticket).forget := by
  cases found : session.task? ticket with
  | none =>
    have hsame : session.forget.task? ticket = none := by rw [forget_task?, found]; rfl
    simp only [runTask, hsame, found]
  | some task =>
    have hsame : session.forget.task? ticket = some task.forget := by
      rw [forget_task?, found]
      rfl
    simp only [runTask, hsame, found]
    cases hstage : task.stage with
    | spawned params =>
      have hspawned : task.forget.stage = .spawned params := congrArg Stage.forget hstage
      simp only [hspawned]
      cases decoded : Dispatch.decode (.feature task.feature) params with
      | error error =>
        have hrefused : Dispatch.decode (.feature task.forget.feature) params = .error error :=
          decoded
        simp only [hrefused]
        exact forget_finish session task (.error error)
      | ok call =>
        have haccepted : Dispatch.decode (.feature task.forget.feature) params = .ok call := decoded
        simp only [haccepted]
        refine Eq.trans ?_ (forget_continueTask session task
          (m.recording.begin call (some (session.cancelledTask task)) session.bridge.engine))
        exact congrArg (continueTask m session.forget task.forget) (forgetAnswer_noteTurn _ _ _).symm
    | waiting call =>
      have hwaiting : task.forget.stage = .waiting call.2 := congrArg Stage.forget hstage
      simp only [hwaiting]
      refine Eq.trans ?_ (forget_continueTask session task
        (m.recording.resume call (some (session.cancelledTask task)) session.bridge.engine))
      exact congrArg (continueTask m session.forget task.forget) (forgetAnswer_noteTurn _ _ _).symm

/-- Supervisors have their turns in the same way. -/
theorem forget_turnSupervisor (world : World) (number : Nat) :
    session.forget.turnSupervisor m world number =
      (session.turnSupervisor m.recording world number).forget := by
  have turned := Bridge.forget_turnSupervisor session.bridge number session.isCancelled world.now
    world.probe
  unfold turnSupervisor
  rw [show session.forget.bridge.turnSupervisor number session.forget.isCancelled world.now
    world.probe = _ from turned]
  dsimp only
  split
  · exact forget_terminate { session with
      bridge := (session.bridge.turnSupervisor number session.isCancelled world.now world.probe).2
      probed := (session.bridge.turnSupervisor number session.isCancelled world.now
        world.probe).1.probed.toList ++ session.probed } .clientGone
  · rfl

/-! ## Acts -/

/-- Whether the next frame may be handled does not depend on the record. -/
theorem forget_reads : session.forget.reads = session.reads := by
  simp only [reads, forget, Option.isNone_map]
  rfl

/-- To forget the record after an act is to perform the act without it. -/
theorem forget_perform (act : Act state) :
    session.forget.perform m act = (session.perform m.recording act.recorded).forget := by
  cases act with
  | receive world payload =>
    have handled := congrArg Prod.snd (forget_handleFrame (m := m) session world payload)
    simp only [perform, Act.recorded, forget_reads]
    cases session.reads with
    | true => exact handled
    | false => rfl
  | resume =>
    have resumed := congrArg Prod.snd (forget_resumeTurn (m := m) session)
    cases hcancelled : session.isCancelled with
    | true => simp only [perform, Act.recorded, forget_isCancelled, hcancelled, if_true]
    | false =>
      simp only [perform, Act.recorded, forget_isCancelled, hcancelled, Bool.false_eq_true,
        if_false]
      exact resumed
  | work ticket => exact forget_runTask session ticket
  | watch world number => exact forget_turnSupervisor session world number
  | publish event =>
    exact congrArg (fun bridge => ({ session.forget with bridge := bridge } : Session state pending))
      (Bridge.forget_emit session.bridge event)
  | stir change => rfl
  | note entries => rfl
  | take => rfl
  | dropReceiver =>
    have hsame : session.forget.bridge.outbound.isOpen = session.bridge.outbound.isOpen := rfl
    cases hopen : session.bridge.outbound.isOpen with
    | true => simp only [perform, Act.recorded, hsame, hopen, if_true]
    | false =>
      simp only [perform, Act.recorded, hsame, hopen, Bool.false_eq_true, if_false]
      rfl
  | inputEnded => exact forget_terminate (session.report _) .transportClosed
  | inputFailed fault =>
    simp only [perform, Act.recorded, inputFailed]
    split
    · exact forget_terminate (session.report _) .transportClosed
    · exact forget_terminate (session.report _) .transportFailed
  | outputFailed fault => exact forget_terminate (session.report _) .transportFailed
  | close => exact forget_terminate (session.withTurn none) .transportClosed

/-- A frame that was handled, without the record. -/
def Receipt.forget (receipt : Receipt (Recorded state) (Nat × pending)) :
    Receipt state pending :=
  ⟨receipt.found.forget, receipt.payload⟩

/-- The same frames are handled. -/
theorem forget_received (act : Act state) :
    session.forget.received act = (session.received act.recorded).map Receipt.forget := by
  cases act with
  | receive world payload =>
    simp only [received, Act.recorded, forget_reads]
    cases session.reads <;> rfl
  | _ => rfl

/-- The same messages leave the queue. -/
theorem forget_leaving (act : Act state) :
    session.forget.leaving act = session.leaving act.recorded := by
  cases act <;> rfl

end Forget

end Session

/-! ## Runs -/

namespace Chronicle

/-- A chronicle without the record of the engine. -/
def forget (chronicle : Chronicle (Recorded state) (Nat × pending)) : Chronicle state pending where
  session := chronicle.session.forget
  departed := chronicle.departed
  receipts := chronicle.receipts.map Session.Receipt.forget

/-- To forget the record after an act is to perform the act without it. -/
theorem forget_perform {m : Engine state pending}
    (chronicle : Chronicle (Recorded state) (Nat × pending)) (act : Session.Act state) :
    chronicle.forget.perform m act = (chronicle.perform m.recording act.recorded).forget := by
  simp only [perform, forget, Session.forget_perform, Session.forget_received,
    Session.forget_leaving, List.map_append]

/-- To forget the record after a run is to run without it. -/
theorem forget_recorded (m : Engine state pending) (engine : state) (config : SessionConfig)
    (acts : List (Session.Act state)) :
    (recorded m engine config acts).forget = (start engine config).run m acts := by
  have fresh : (start ⟨engine, []⟩ config : Chronicle (Recorded state) (Nat × pending)).forget =
      start engine config := rfl
  have steps (chronicle : Chronicle (Recorded state) (Nat × pending)) :
      chronicle.forget.run m acts =
        (chronicle.run m.recording (acts.map Session.Act.recorded)).forget := by
    induction acts generalizing chronicle with
    | nil => rfl
    | cons act rest ih =>
      rw [run_cons, forget_perform]
      exact ih _
  rw [← fresh, steps]
  rfl

end Chronicle

end LspGateway
