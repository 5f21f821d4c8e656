import LspGateway.Session.Request

/-!
# Messages of the client

Every frame holds one message, and every message is handled before the next one
is looked at. Where that takes a call of the engine, the session waits for its
answer, unless it is told to stop meanwhile: then the call is cut off.
-/

namespace LspGateway.Session

variable {state pending : Type}

/-- Whether the session reads on. -/
inductive Flow where
  /-- The next message may be handled. -/
  | on
  /-- No further message is handled. -/
  | stop
  deriving DecidableEq, Repr

/-! ## The handshake, the shutdown and the exit -/

/-- Begins to watch the process that the client has named, unless one is watched
already or the process cannot be found. -/
def supervise (session : Session state pending) (world : World) (pid : Nat) :
    Session state pending :=
  if session.bridge.attached.isSome then session
  else
    let session := { session with probed := pid :: session.probed }
    match world.probe pid with
    | .ok true =>
      let (number, bridge) :=
        session.bridge.spawnSupervisor pid session.config.pollInterval world.now
      { session with bridge := (bridge.attachSupervisor number).2 }
    | .ok false =>
      session.report [⟨.warn, .session, "client process is not running; supervision disabled",
        [("pid", .count pid)]⟩]
    | .error error =>
      session.report [⟨.warn, .session, "cannot probe client process; supervision disabled",
        [("pid", .count pid), ("error", .shown error.message)]⟩]

/-- Sees a message through that was handled in its turn, the engine having
answered. -/
def conclude (m : Engine state pending) (session : Session state pending) (duty : Duty)
    (outcome : Engine.Outcome) : Flow × Session state pending :=
  let method := duty.operation.method
  let session := session.report (Dispatch.outcomeEntries method outcome)
  match duty, Dispatch.conclude method outcome with
  | .opening id, .ok value => (.on, session.reply id method (.ok value))
  | .opening id, .error error =>
    (.on, (session.pass session.lifecycle.abortHandshake).reply id method (.error error))
  | .confirmation, .ok _ => (.on, session)
  | .confirmation, .error error =>
    (.on, session.report [⟨.warn, .dispatch, "engine rejected initialized",
      [("error", .shown error.message)]⟩])
  | .shutdown id, result => (.on, session.reply id method (result.map fun _ => .null))
  | .exit, .ok _ => (.stop, session.terminate m .exit)
  | .exit, .error error =>
    (.stop, (session.report [⟨.warn, .session, "engine failed during exit",
      [("error", .shown error.message)]⟩]).terminate m .exit)
  | .notice _, .ok _ => (.on, session)
  | .notice _, .error error =>
    (.on, session.report [
      if error.isCancellation then
        ⟨.debug, .dispatch, "notification cancelled", [("method", .text method)]⟩
      else
        ⟨.warn, .dispatch, "notification handler failed",
          [("method", .text method), ("error", .shown error.message)]⟩])

/-- Takes up what the engine came to in a message that is handled in its turn. -/
def continueTurn (m : Engine state pending) (session : Session state pending) (duty : Duty)
    (answer : state × Engine.Turn pending) : Flow × Session state pending :=
  let published := publish m
    { session with bridge := { session.bridge with engine := answer.1 } } answer.2.events
  match answer.2.progress with
  | .waiting call => (.on, { published with turn := some ⟨duty, call⟩ })
  | .done outcome => conclude m { published with turn := none } duty outcome

/-- Asks the engine in the course of a message that is handled in its turn. -/
def ask (m : Engine state pending) (session : Session state pending) (duty : Duty)
    (call : Engine.Call) : Flow × Session state pending :=
  session.continueTurn m duty (m.begin call none session.bridge.engine)

/-- Asks the engine again for the message that waits for it. -/
def resumeTurn (m : Engine state pending) (session : Session state pending) :
    Flow × Session state pending :=
  match session.turn with
  | none => (.on, session)
  | some turn => session.continueTurn m turn.duty (m.resume turn.call none session.bridge.engine)

/-- Opens the handshake. -/
def openHandshake (m : Engine state pending) (world : World) (session : Session state pending)
    (id : RequestId) (params : Json) : Flow × Session state pending :=
  match session.lifecycle.beginHandshake with
  | .error error => (.on, session.reply id "initialize" (.error error))
  | .ok next =>
    let session := session.pass next
    match Dispatch.decode .opening params with
    | .error error =>
      (.on, (session.pass session.lifecycle.abortHandshake).reply id "initialize" (.error error))
    | .ok call =>
      let session := match (call.params.get? "processId").bind Json.nat? with
        | some pid => session.supervise world pid
        | none => session
      if session.bridge.released then
        (.on, session.reply id "initialize" (.error .engineReleased))
      else session.ask m (.opening id) call

/-- Confirms the handshake; what the client says besides does not matter. -/
def confirmHandshake (m : Engine state pending) (session : Session state pending) :
    Flow × Session state pending :=
  match session.lifecycle.completeHandshake? with
  | none =>
    (.on, session.report [⟨.warn, .dispatch, "ignoring initialized notification",
      [("state", .shown session.lifecycle.phase.label)]⟩])
  | some next =>
    let session := session.pass next
    if session.bridge.released then (.on, session)
    else session.ask m .confirmation ⟨.confirmation, .ofPairs []⟩

/-- Begins the shutdown. -/
def shutDown (m : Engine state pending) (session : Session state pending) (id : RequestId) :
    Flow × Session state pending :=
  match session.lifecycle.beginShutdown with
  | .error error => (.on, session.reply id "shutdown" (.error error))
  | .ok next =>
    let session := session.pass next
    if session.bridge.released then
      (.on, session.reply id "shutdown" (.error .engineReleased))
    else session.ask m (.shutdown id) ⟨.shutdown, .null⟩

/-- Leaves. -/
def leave (m : Engine state pending) (session : Session state pending) :
    Flow × Session state pending :=
  let session := session.report [⟨.info, .session, "exit received",
    [("after_shutdown", .flag session.lifecycle.shutdownRequested)]⟩]
  if session.bridge.released then (.stop, session.terminate m .exit)
  else session.ask m .exit ⟨.exit, .null⟩

/-! ## Requests and notifications -/

/-- Cancels a request. -/
def cancel (session : Session state pending) (params : Json) : Session state pending :=
  let ignored (mismatch : Json.Mismatch) := session.report
    [⟨.warn, .dispatch, "ignoring malformed cancellation", [("error", .shown mismatch.message)]⟩]
  match (Protocol.cancelParams RequestId.shape).canonical params with
  | .error mismatch => ignored mismatch
  | .ok record =>
    match RequestId.ofJson ((record.get? "id").getD .null) with
    | .error mismatch => ignored mismatch
    | .ok id =>
      let (found, registry) := session.registry.cancel id
      { session with registry := registry }.report [Registry.cancelEntry id found]

/-- Handles a request. -/
def handleRequest (m : Engine state pending) (world : World) (session : Session state pending)
    (id : RequestId) (method : String) (params : Json) : Flow × Session state pending :=
  match MethodTable.standard.route? method with
  | none => (.on, session.reply id method (.error (.methodNotFound method)))
  | some (.control .opening) => session.openHandshake m world id params
  | some (.control .shutdown) => session.shutDown m id
  | some (.control _) | some (.notice _) =>
    (.on, session.reply id method (.error (.notARequest method)))
  | some (.feature feature) => (.on, session.spawn id feature params)

/-- Passes a notification on to the engine. -/
def forward (m : Engine state pending) (session : Session state pending)
    (notice : Engine.Notice) (params : Json) : Flow × Session state pending :=
  if !session.lifecycle.admitsNotifications then
    (.on, session.report [⟨.warn, .dispatch, "dropping notification outside the initialized state",
      [("method", .text notice.method), ("state", .shown session.lifecycle.phase.label)]⟩])
  else if session.bridge.released then (.on, session)
  else match Dispatch.decode (.notice notice) params with
    | .ok call => session.ask m (.notice notice) call
    | .error error =>
      (.on, session.report [⟨.warn, .dispatch, "notification handler failed",
        [("method", .text notice.method), ("error", .shown error.message)]⟩])

/-- Handles a notification. -/
def handleNotification (m : Engine state pending) (session : Session state pending)
    (method : String) (params : Json) : Flow × Session state pending :=
  match MethodTable.standard.route? method with
  | none =>
    (.on, session.report [⟨.debug, .dispatch, "ignoring unrouted notification",
      [("method", .text method)]⟩])
  | some (.control .confirmation) => session.confirmHandshake m
  | some (.control .exit) => session.leave m
  | some (.control .cancel) => (.on, session.cancel params)
  | some (.control _) | some (.feature _) =>
    (.on, session.report [⟨.warn, .dispatch, "request method sent as a notification; ignoring",
      [("method", .text method)]⟩])
  | some (.notice notice) => session.forward m notice params

/-- Handles the payload of a frame. -/
def handleFrame (m : Engine state pending) (world : World) (session : Session state pending)
    (payload : Bytes) : Flow × Session state pending :=
  match Incoming.decode payload with
  | .ok (.request id method params) => session.handleRequest m world id method params
  | .ok (.notification method params) => session.handleNotification m method params
  | .ok (.response id _ error) =>
    (.on, session.report [⟨.debug, .dispatch, "ignoring response from client",
      [("id", .shown (RequestId.displayOption id)), ("failed", .flag error.isSome)]⟩])
  | .error rejection =>
    (.on, (session.report [⟨.warn, .dispatch, "rejecting malformed message",
      [("error", .shown rejection.message)]⟩]).send rejection.response)

/-! ## The end of the input -/

/-- The input has ended between frames. -/
def inputEnded (m : Engine state pending) (session : Session state pending) :
    Session state pending :=
  (session.report [⟨.info, .session, "client closed the transport", []⟩]).terminate m
    .transportClosed

/-- The input is at fault; an end inside a frame counts as the client having
left. -/
def inputFailed (m : Engine state pending) (session : Session state pending)
    (fault : Frame.Fault) : Session state pending :=
  if fault.isUnexpectedEnd then
    (session.report [⟨.warn, .session, "transport closed mid-frame",
      [("error", .shown fault.message)]⟩]).terminate m .transportClosed
  else
    (session.report [⟨.error, .session, "transport read failed",
      [("error", .shown fault.message)]⟩]).terminate m .transportFailed

/-- The output is at fault. -/
def outputFailed (m : Engine state pending) (session : Session state pending)
    (fault : Frame.Fault) : Session state pending :=
  (session.report [⟨.error, .session, "transport write failed",
    [("error", .shown fault.message)]⟩]).terminate m .transportFailed

/-- Lets a supervisor have a turn; a client that is gone ends the session. -/
def turnSupervisor (m : Engine state pending) (world : World) (session : Session state pending)
    (number : Nat) : Session state pending :=
  let (turn, bridge) :=
    session.bridge.turnSupervisor number session.isCancelled world.now world.probe
  let session := { session with bridge := bridge, probed := turn.probed.toList ++ session.probed }
  if turn.exited then session.terminate m .clientGone else session

end LspGateway.Session
