import LspGateway.Dispatch.Direct
import LspGateway.Engine.Bare
import LspGateway.Proofs.Engine.Recording
import LspGateway.Proofs.Session.Completion

/-!
# Handlers

A message for the engine is handled in turns. In the first one its parameters are decoded and
the engine is called, in the others the engine is asked again about that call. Between two turns
the engine may be used by others, and nothing is known of its state. However the turns fall, a
handler has the engine called at most once: with the operation of its method, and with the
parameters as they were decoded.
-/

namespace LspGateway

variable {state pending : Type}

/-- The next turn of a message: what the engine comes to, if the parameters fit. -/
def Session.Stage.advance (m : Engine state pending) (operation : Engine.Operation)
    (cancelled : Option Bool) (engine : state) :
    Stage pending → Except Dispatch.Error (state × Engine.Turn pending)
  | .spawned params =>
    (Dispatch.decode operation params).map fun call => m.begin call cancelled engine
  | .waiting call => .ok (m.resume call cancelled engine)

/-- What is reported at once may as well be reported one after the other. -/
theorem Session.report_append (session : Session state pending) (first second : List Log.Entry) :
    session.report (first ++ second) = (session.report first).report second := by
  simp only [report, Bridge.report, List.append_assoc]

namespace Dispatch

open Engine

/-! ## Turns -/

/-- How far a handler has come. -/
inductive Handler (pending : Type) where
  /-- It has more turns to take. -/
  | underway (stage : Session.Stage pending)
  /-- It has returned. -/
  | returned (result : Except Error Json)

namespace Handler

/-- A handler that was not given a turn yet. -/
def fresh (params : Json) : Handler pending :=
  .underway (.spawned params)

/-- How far a handler comes by a turn of its call. -/
def ofTurn (method : String) (turn : Turn pending) : Handler pending :=
  match turn.progress with
  | .waiting call => .underway (.waiting call)
  | .done outcome => .returned (conclude method outcome)

/-- Gives a handler a turn; yields the state of the engine, and how far the handler comes. -/
def poll (m : Engine state pending) (operation : Operation) (cancelled : Option Bool)
    (engine : state) : Handler pending → state × Handler pending
  | .underway stage =>
    match stage.advance m operation cancelled engine with
    | .error error => (engine, .returned (.error error))
    | .ok answer => (answer.1, ofTurn operation.method answer.2)
  | .returned result => (engine, .returned result)

end Handler

/-- What was asked for between two records. -/
def newly (before after : List Entry) : List (Option (Call × Option Bool)) :=
  (after.map Entry.asked?).drop before.length

/-- One record has come of another: entries stay in their places, and calls that have ended stay
as they are. -/
def MovesOn (before after : List Entry) : Prop :=
  ∀ (number : Nat) (call : Call) (cancelled : Option Bool) (outcome : Option Outcome),
    before[number]? = some (.call call cancelled outcome) →
      ∃ later, after[number]? = some (.call call cancelled later) ∧
        (outcome.isSome = true → later = outcome)

/-- The runs of a handler beside others that use the engine: the engine and its record, how far
the handler has come, what was asked for in its turns, and the states of cancellation that the
turns came with. -/
inductive Runs (m : Engine state pending) (operation : Operation) (params : Json) :
    Recorded state → Handler (Nat × pending) → List (Option (Call × Option Bool)) →
      List (Option Bool) → Prop where
  /-- The handler begins, whatever was asked of the engine before. -/
  | start (engine : Recorded state) : Runs m operation params engine (.fresh params) [] []
  /-- Others use the engine. -/
  | others {engine next : Recorded state} {handler : Handler (Nat × pending)}
      {asked : List (Option (Call × Option Bool))} {turns : List (Option Bool)}
      (runs : Runs m operation params engine handler asked turns)
      (moves : MovesOn engine.record next.record) : Runs m operation params next handler asked turns
  /-- The handler takes a turn. -/
  | turn {engine : Recorded state} {handler : Handler (Nat × pending)}
      {asked : List (Option (Call × Option Bool))} {turns : List (Option Bool)}
      (runs : Runs m operation params engine handler asked turns)
      (cancelled : Option Bool) :
      Runs m operation params (handler.poll m.recording operation cancelled engine).1
        (handler.poll m.recording operation cancelled engine).2
        (asked ++
          newly engine.record (handler.poll m.recording operation cancelled engine).1.record)
        (turns ++ [cancelled])

/-- Where a handler of a method stands that was to have the engine called. The call has begun
with the cancellation of the first turn. -/
inductive Stands (method : String) (call : Call) (params : Json) (record : List Entry) :
    Handler (Nat × pending) → List (Option (Call × Option Bool)) → List (Option Bool) →
      Prop where
  /-- It was not given a turn, and nothing was asked for. -/
  | fresh : Stands method call params record (.fresh params) [] []
  /-- The call has begun. -/
  | waiting (number : Nat) (inner : pending) (first : Option Bool) (later : List (Option Bool))
      (outcome : Option Outcome)
      (entered : record[number]? = some (.call call first outcome)) :
      Stands method call params record (.underway (.waiting (number, inner)))
        [some (call, first)] (first :: later)
  /-- The call has ended with a result, and the handler has returned it. -/
  | answered (number : Nat) (first : Option Bool) (later : List (Option Bool)) (value : Json)
      (entered : record[number]? = some (.call call first (some (.result value)))) :
      Stands method call params record (.returned (.ok value)) [some (call, first)]
        (first :: later)
  /-- The call has failed, and the handler has returned the error under its method. -/
  | failed (number : Nat) (first : Option Bool) (later : List (Option Bool))
      (error : Engine.Error)
      (entered : record[number]? = some (.call call first (some (.failed error)))) :
      Stands method call params record (.returned (.error (.engine method error)))
        [some (call, first)] (first :: later)
  /-- The call has broken off, and the handler with it. -/
  | broke (number : Nat) (first : Option Bool) (later : List (Option Bool))
      (reason : Option String)
      (entered : record[number]? = some (.call call first (some (.broke reason)))) :
      Stands method call params record (.returned (.error (.crashed method)))
        [some (call, first)] (first :: later)

/-- An engine that does not care about an operation. -/
def LeavesAlone (m : Engine state pending) (operation : Operation) : Prop :=
  ∀ params cancelled engine,
    m.begin ⟨operation, params⟩ cancelled engine = (engine, .ended (defaultOutcome operation))

/-! ## What is asked for in a turn -/

/-- What was asked for is what the later record has more. -/
theorem newly_of_map_eq {before after : List Entry} {news : List (Option (Call × Option Bool))}
    (h : after.map Entry.asked? = before.map Entry.asked? ++ news) : newly before after = news := by
  rw [newly, h, List.drop_left' (List.length_map _)]

/-- Nothing was asked for. -/
theorem newly_of_same {before after : List Entry}
    (h : after.map Entry.asked? = before.map Entry.asked?) : newly before after = [] :=
  newly_of_map_eq (h.trans (List.append_nil _).symm)

/-- Where a handler stands after a turn of its call. -/
theorem Stands.ofTurn {method : String} {call : Call} {params : Json} {record : List Entry}
    {number : Nat} {first : Option Bool} {outcome : Option Outcome}
    (entered : record[number]? = some (.call call first outcome))
    (answer : state × Turn pending) (later : List (Option Bool)) :
    Stands method call params (noteTurn record number answer).1.record
      (.ofTurn method (noteTurn record number answer).2)
      [some (call, first)] (first :: later) := by
  unfold noteTurn Handler.ofTurn
  cases answer.2.progress with
  | waiting inner => exact .waiting number inner first later outcome entered
  | done ended =>
    have settled := getElem?_modify_settle entered ended
    cases ended with
    | result value => exact .answered number first later value settled
    | failed error => exact .failed number first later error settled
    | broke reason => exact .broke number first later reason settled

/-- What others ask for does not matter to where a handler stands. -/
theorem Stands.movesOn {method : String} {call : Call} {params : Json} {before after : List Entry}
    {handler : Handler (Nat × pending)} {asked : List (Option (Call × Option Bool))}
    {turns : List (Option Bool)}
    (stands : Stands method call params before handler asked turns)
    (moves : MovesOn before after) : Stands method call params after handler asked turns := by
  cases stands with
  | fresh => exact .fresh
  | waiting number inner first later outcome entered =>
    obtain ⟨last, entered, -⟩ := moves _ _ _ _ entered
    exact .waiting number inner first later last entered
  | answered number first later value entered =>
    obtain ⟨last, entered, same⟩ := moves _ _ _ _ entered
    exact .answered number first later value (by rw [entered, same rfl])
  | failed number first later error entered =>
    obtain ⟨last, entered, same⟩ := moves _ _ _ _ entered
    exact .failed number first later error (by rw [entered, same rfl])
  | broke number first later reason entered =>
    obtain ⟨last, entered, same⟩ := moves _ _ _ _ entered
    exact .broke number first later reason (by rw [entered, same rfl])

section Runs

variable {m : Engine state pending} {operation : Operation} {params : Json}
  {engine : Recorded state} {handler : Handler (Nat × pending)}
  {asked : List (Option (Call × Option Bool))} {turns : List (Option Bool)}

/-- A turn keeps where a handler stands: in the first one the engine is called. -/
theorem Stands.poll {call : Call} (decoded : decode operation params = .ok call)
    (stands : Stands operation.method call params engine.record handler asked turns)
    (cancelled : Option Bool) :
    Stands operation.method call params
      (handler.poll m.recording operation cancelled engine).1.record
      (handler.poll m.recording operation cancelled engine).2
      (asked ++
        newly engine.record (handler.poll m.recording operation cancelled engine).1.record)
      (turns ++ [cancelled]) := by
  have named : call.operation = operation := Session.operation_of_decode decoded
  subst named
  cases stands with
  | fresh =>
    simp only [Handler.fresh, Handler.poll, Session.Stage.advance, decoded, Except.map, recording]
    rw [newly_of_map_eq ((map_asked?_noteTurn _ _ _).trans List.map_append)]
    exact .ofTurn List.getElem?_concat_length _ []
  | waiting number inner first later outcome entered =>
    simp only [Handler.poll, Session.Stage.advance, recording]
    rw [newly_of_same (map_asked?_noteTurn _ _ _)]
    exact .ofTurn entered _ (later ++ [cancelled])
  | answered | failed | broke =>
    rw [Handler.poll, newly_of_same rfl, List.append_nil, List.cons_append]
    constructor
    assumption

/-- However its turns fall, a handler has the engine called once. -/
theorem Runs.stands (runs : Runs m operation params engine handler asked turns) {call : Call}
    (decoded : decode operation params = .ok call) :
    Stands operation.method call params engine.record handler asked turns := by
  -- Others cannot bring the handler anywhere else, since they leave the entry of its call.
  induction runs with
  | start => exact .fresh
  | others _ moves ih => exact ih.movesOn moves
  | turn _ cancelled ih => exact ih.poll decoded cancelled

/-- A handler whose parameters do not fit returns at once and has nothing asked for. -/
theorem Runs.refused (runs : Runs m operation params engine handler asked turns) {error : Error}
    (refused : decode operation params = .error error) :
    asked = [] ∧ (handler = .fresh params ∨ handler = .returned (.error error)) := by
  induction runs with
  | start => exact ⟨rfl, .inl rfl⟩
  | others _ _ ih => exact ih
  | turn _ cancelled ih =>
    obtain ⟨rfl, rfl | rfl⟩ := ih
    · simp only [Handler.fresh, Handler.poll, Session.Stage.advance, refused, Except.map]
      exact ⟨newly_of_same rfl, by simp⟩
    · exact ⟨newly_of_same rfl, .inr rfl⟩

/-- With an engine that does not care about the operation a handler returns in its first turn. -/
theorem Runs.leftAlone (runs : Runs m operation params engine handler asked turns) {decoded : Json}
    (fits : decode operation params = .ok ⟨operation, decoded⟩) (alone : LeavesAlone m operation) :
    handler = .fresh params ∨
      handler = .returned (conclude operation.method (defaultOutcome operation)) := by
  induction runs with
  | start => exact .inl rfl
  | others _ _ ih => exact ih
  | turn _ cancelled ih =>
    obtain rfl | rfl := ih
    · simp only [Handler.fresh, Handler.poll, Session.Stage.advance, fits, Except.map, recording,
        noteTurn, alone _ _ _, Turn.ended]
      exact .inr rfl
    · exact .inr rfl

/-- A turn brings a handler further. -/
theorem Handler.poll_ne_fresh (m : Engine state pending) (operation : Operation)
    (cancelled : Option Bool) (engine : state) (handler : Handler pending) (params : Json) :
    (handler.poll m operation cancelled engine).2 ≠ .fresh params := by
  cases handler with
  | returned result => simp [poll, fresh]
  | underway stage =>
    unfold poll ofTurn
    dsimp only
    cases stage.advance m operation cancelled engine with
    | error error => simp [fresh]
    | ok answer =>
      dsimp only
      split <;> simp [fresh]

end Runs

/-! ## Who gives turns -/

/-- What is reported of the end of a call for a notification: that it broke off, and what its
handler has returned unless all went well. -/
def noticeEntries (method : String) (outcome : Outcome) : List Log.Entry :=
  outcomeEntries method outcome ++
    match conclude method outcome with
    | .ok _ => []
    | .error error =>
      [if error.isCancellation then
        ⟨.debug, .dispatch, "notification cancelled", [("method", .text method)]⟩
      else
        ⟨.warn, .dispatch, "notification handler failed",
          [("method", .text method), ("error", .shown error.message)]⟩]

section Turns

variable {m : Engine state pending} {session : Session state pending}

/-- A task whose call waits is kept; one whose call has ended is answered by what its handler
returns. -/
theorem continueTask_eq (session : Session state pending) (task : Session.Task pending)
    (answer : state × Turn pending) :
    session.continueTask m task answer =
      let published := (session.withEngine answer.1).publish m answer.2.events
      match answer.2.progress with
      | .waiting call => published.park task call
      | .done outcome =>
        (published.report (outcomeEntries task.feature.method outcome)).finish task
          (conclude task.feature.method outcome) :=
  rfl

/-- The end of a call for a notification is reported, and that is all. -/
theorem conclude_notice (session : Session state pending) (notice : Notice) (outcome : Outcome) :
    session.conclude m (.notice notice) outcome =
      (.on, session.report (noticeEntries notice.method outcome)) := by
  cases outcome with
  | result value => rfl
  | failed error | broke reason =>
    rw [noticeEntries, Session.report_append]
    rfl

/-- A notification whose call waits holds up the messages after it; the end of its call is
reported. -/
theorem continueTurn_notice (session : Session state pending) (notice : Notice)
    (answer : state × Turn pending) :
    session.continueTurn m (.notice notice) answer =
      let published := (session.withEngine answer.1).publish m answer.2.events
      (.on, match answer.2.progress with
        | .waiting call => published.withTurn (some ⟨.notice notice, call⟩)
        | .done outcome =>
          (published.withTurn none).report (noticeEntries notice.method outcome)) := by
  unfold Session.continueTurn
  cases answer.2.progress with
  | waiting call => rfl
  | done outcome => exact conclude_notice _ notice outcome

/-- A task gives its turns to the handler of a feature, with the state of its cancellation. -/
theorem runTask_eq {ticket : Nat} {task : Session.Task pending}
    (held : session.task? ticket = some task) :
    session.runTask m ticket =
      match task.stage.advance m (.feature task.feature) (some (session.cancelledTask task))
        session.bridge.engine with
      | .error error => session.finish task (.error error)
      | .ok answer => session.continueTask m task answer := by
  unfold Session.runTask
  rw [held]
  dsimp only
  cases task.stage with
  | waiting call => rfl
  | spawned params =>
    dsimp only [Session.Stage.advance]
    cases decode (.feature task.feature) params <;> rfl

/-- A notification that is admitted gives the first turn to its handler. -/
theorem forward_eq (admitted : session.lifecycle.admitsNotifications = true)
    (held : session.bridge.released = false) (notice : Notice) (params : Json) :
    session.forward m notice params =
      match (Session.Stage.spawned params).advance m (.notice notice) none
        session.bridge.engine with
      | .error error =>
        (.on, session.report [⟨.warn, .dispatch, "notification handler failed",
          [("method", .text notice.method), ("error", .shown error.message)]⟩])
      | .ok answer => session.continueTurn m (.notice notice) answer := by
  unfold Session.forward
  rw [admitted, held]
  dsimp only [Session.Stage.advance]
  cases decode (.notice notice) params <;> rfl

/-- The others are given as long as it waits. -/
theorem resumeTurn_eq {turn : Session.Turn pending} (waits : session.turn = some turn) :
    .ok (session.resumeTurn m) =
      ((Session.Stage.waiting turn.call).advance m turn.duty.operation none
        session.bridge.engine).map (session.continueTurn m turn.duty) := by
  unfold Session.resumeTurn
  rw [waits]
  rfl

/-- What a handler without a session makes of the end of its call: it returns, unless the call
has broken off. -/
def DirectAnswer.handled (method : String) : Outcome → DirectAnswer
  | .broke reason => .ended (.broke reason)
  | outcome => .returned (conclude method outcome)

/-- An engine that is called without a session gives the first turn to a handler. -/
theorem Direct.run_eq {direct : Direct} {operation : Operation}
    (routed : (MethodTable.standard.route? direct.method).bind Route.operation? = some operation)
    (engine : state) :
    direct.run m engine =
      match (Session.Stage.spawned direct.params).advance m operation (direct.token operation)
        engine with
      | .error error => (.returned (.error error), [], engine)
      | .ok (engine, turn) =>
        (match turn.progress with
          | .done outcome => .handled operation.method outcome
          | .waiting _ => .waits, turn.events, engine) := by
  obtain ⟨route, found, behind⟩ := Option.bind_eq_some_iff.mp routed
  have led : direct.operation? = some operation ∧ direct.given operation = direct.params ∧
      ∀ outcome, DirectAnswer.ofOutcome operation outcome = .handled operation.method outcome := by
    unfold Direct.operation?
    rw [found]
    cases route with
    | control => cases behind
    | feature | notice =>
      cases behind
      exact ⟨rfl, rfl, fun outcome => by cases outcome <;> rfl⟩
  obtain ⟨called, given, told⟩ := led
  unfold Direct.run
  rw [called]
  dsimp only [Session.Stage.advance]
  rw [given]
  cases decode operation direct.params with
  | error error => rfl
  | ok call =>
    cases progress : (m.begin call (direct.token operation) engine).2.progress <;>
      simp only [Except.map, progress, told]

end Turns

/-! ## Routed methods -/

/-- The operation that a method leads to is the only one of that name. -/
theorem operation_of_method {method : String} {operation other : Operation}
    (routed : (MethodTable.standard.route? method).bind Route.operation? = some operation)
    (named : other.method = method) : other = operation := by
  subst named
  cases other with
  | feature feature =>
    rw [show (Operation.feature feature).method = feature.method from rfl,
      MethodTable.route?_standard_feature] at routed
    exact Option.some.inj routed
  | notice notice =>
    rw [show (Operation.notice notice).method = notice.method from rfl,
      MethodTable.route?_standard_notice] at routed
    exact Option.some.inj routed
  | opening | confirmation | shutdown | exit =>
    cases routed.symm.trans (by decide +kernel : _ = none)

/-- The messages of a method are handled by an operation of the engine. -/
structure HandledBy (m : Engine state pending) (method : String) (operation : Operation) :
    Prop where
  /-- The operation is the one of that name, and there is no other. -/
  named : ∀ other : Operation, other.method = method ↔ other = operation
  /-- A handler that was given a turn has begun. -/
  begins : ∀ params cancelled engine (handler : Handler (Nat × pending)),
    (handler.poll m.recording operation cancelled engine).2 ≠ .fresh params
  /-- Parameters that do not fit are refused under the name of the method, and nothing is asked of
  the engine. -/
  refused : ∀ params mismatch, operation.params.canonical params = .error mismatch →
    (∀ cancelled engine, (Handler.fresh params).poll m operation cancelled engine =
      (engine, .returned (.error (.invalidParams method (.mismatch mismatch none))))) ∧
    ∀ engine handler asked turns, Runs m operation params engine handler asked turns →
      asked = [] ∧ (handler = .fresh params ∨
        handler = .returned (.error (.invalidParams method (.mismatch mismatch none))))
  /-- With parameters that fit the operation is called once, and how that call ends is returned. -/
  called : ∀ params decoded, operation.params.canonical params = .ok decoded →
    ∀ engine handler asked turns, Runs m operation params engine handler asked turns →
      Stands method ⟨operation, decoded⟩ params engine.record handler asked turns
  /-- A request for a feature that the engine does not care about fails in its first turn, under
  the name of the method. -/
  unsupported : ∀ feature, operation = .feature feature → LeavesAlone m operation →
    ∀ params decoded, operation.params.canonical params = .ok decoded →
      ∀ engine handler asked turns, Runs m operation params engine handler asked turns →
        handler = .fresh params ∨ ∃ error, handler = .returned (.error error) ∧
          error = .engine method (.unsupported method) ∧ error.code = .methodNotFound
  /-- A notification that the engine does not care about is through in its first turn. -/
  accepted : ∀ notice, operation = .notice notice → LeavesAlone m operation →
    ∀ params decoded, operation.params.canonical params = .ok decoded →
      ∀ engine handler asked turns, Runs m operation params engine handler asked turns →
        handler = .fresh params ∨ handler = .returned (.ok .null)
  /-- A task gives its turns to the handler, with the state of its cancellation. -/
  task : ∀ (session : Session state pending) ticket (task : Session.Task pending),
    operation = .feature task.feature → session.task? ticket = some task →
      session.runTask m ticket =
        match task.stage.advance m operation (some (session.cancelledTask task))
          session.bridge.engine with
        | .error error => session.finish task (.error error)
        | .ok answer => session.continueTask m task answer
  /-- While the call waits the task is kept; once it has ended, the task goes with what the
  handler returns. -/
  continued : ∀ (session : Session state pending) (task : Session.Task pending) answer,
    operation = .feature task.feature →
      session.continueTask m task answer =
        let published := (session.withEngine answer.1).publish m answer.2.events
        match answer.2.progress with
        | .waiting call => published.park task call
        | .done outcome =>
          (published.report (outcomeEntries method outcome)).finish task (conclude method outcome)
  /-- Its request is answered by how the call has ended. -/
  answered : ∀ (session : Session state pending) (task : Session.Task pending) answer outcome,
    operation = .feature task.feature → session.bridge.OnlyForwards →
      answer.2.progress = .done outcome →
        session.Leaves task (outcome.answer method) (session.continueTask m task answer)
  /-- A notification that is admitted gives its first turn to the handler. -/
  forwarded : ∀ (session : Session state pending) notice params, operation = .notice notice →
    session.lifecycle.admitsNotifications = true → session.bridge.released = false →
      session.forward m notice params =
        match (Session.Stage.spawned params).advance m operation none session.bridge.engine with
        | .error error =>
          (.on, session.report [⟨.warn, .dispatch, "notification handler failed",
            [("method", .text method), ("error", .shown error.message)]⟩])
        | .ok answer => session.continueTurn m (.notice notice) answer
  /-- It gives it the others as long as it waits. -/
  resumed : ∀ (session : Session state pending) (turn : Session.Turn pending),
    operation = turn.duty.operation → session.turn = some turn →
      .ok (session.resumeTurn m) =
        ((Session.Stage.waiting turn.call).advance m operation none session.bridge.engine).map
          (session.continueTurn m turn.duty)
  /-- While the call waits so does the notification; once it has ended, what the handler returns
  is reported, and the next message may be handled. -/
  seen : ∀ (session : Session state pending) notice answer, operation = .notice notice →
    session.continueTurn m (.notice notice) answer =
      let published := (session.withEngine answer.1).publish m answer.2.events
      (.on, match answer.2.progress with
        | .waiting call => published.withTurn (some ⟨.notice notice, call⟩)
        | .done outcome => (published.withTurn none).report (noticeEntries method outcome))
  /-- An engine that is called without a session gives the first turn to the handler, and is told
  what it returns. -/
  direct : ∀ direct : Direct, direct.method = method → ∀ engine,
    direct.run m engine =
      match (Session.Stage.spawned direct.params).advance m operation (direct.token operation)
        engine with
      | .error error => (.returned (.error error), [], engine)
      | .ok (engine, turn) =>
        (match turn.progress with
          | .done outcome => .handled method outcome
          | .waiting _ => .waits, turn.events, engine)

/-- Every method that leads to the engine is handled by the operation that it leads to. -/
theorem handledBy_of_route (m : Engine state pending) {method : String} {operation : Operation}
    (routed : (MethodTable.standard.route? method).bind Route.operation? = some operation) :
    HandledBy m method operation := by
  have named : operation.method = method := Session.method_of_operation? routed
  have decode_ok {params decoded : Json} (fits : operation.params.canonical params = .ok decoded) :
      decode operation params = .ok ⟨operation, decoded⟩ := by
    rw [decode, fits]
  have decode_error {params : Json} {mismatch : Json.Mismatch}
      (misfits : operation.params.canonical params = .error mismatch) :
      decode operation params = .error (.invalidParams method (.mismatch mismatch none)) := by
    rw [decode, misfits, named]
  constructor
  case named =>
    intro other
    refine ⟨fun same => ?_, fun same => same ▸ named⟩
    exact operation_of_method routed same
  case begins =>
    intro params cancelled engine handler
    exact handler.poll_ne_fresh m.recording operation cancelled engine params
  case refused =>
    intro params mismatch misfits
    refine ⟨fun cancelled engine => ?_, fun engine handler asked turns runs =>
      runs.refused (decode_error misfits)⟩
    simp only [Handler.fresh, Handler.poll, Session.Stage.advance, decode_error misfits, Except.map]
  case called =>
    intro params decoded fits engine handler asked turns runs
    rw [← named]
    exact runs.stands (decode_ok fits)
  case unsupported =>
    intro feature isFeature alone params decoded fits engine handler asked turns runs
    obtain fresh | returned := runs.leftAlone (decode_ok fits) alone
    · exact .inl fresh
    · subst isFeature named
      refine .inr ⟨_, returned, ?_, rfl⟩
      rw [Feature.fallback_eq_request]
      rfl
  case accepted =>
    intro notice isNotice alone params decoded fits engine handler asked turns runs
    obtain fresh | returned := runs.leftAlone (decode_ok fits) alone
    · exact .inl fresh
    · subst isNotice
      exact .inr returned
  case task =>
    intro session ticket task isFeature held
    rw [runTask_eq held, isFeature]
  case forwarded =>
    intro session notice params isNotice admitted held
    subst isNotice
    rw [forward_eq admitted held, ← named]
    rfl
  case continued =>
    intro session task answer isFeature
    subst isFeature named
    exact continueTask_eq session task answer
  case answered =>
    intro session task answer outcome isFeature forwards done
    subst isFeature named
    exact Session.leaves_continueTask forwards task done
  case resumed =>
    intro session turn isDuty waits
    rw [resumeTurn_eq waits, isDuty]
  case seen =>
    intro session notice answer isNotice
    subst isNotice named
    exact continueTurn_notice session notice answer
  case direct =>
    intro direct leads engine
    subst leads
    rw [Direct.run_eq routed engine, named]

/-- An engine without features is called for the symbols of the workspace, and the request fails;
without a text to look for it is not called. -/
theorem handledBy_of_route_of_symbols :
    let operation : Operation := .feature .workspaceSymbol
    let query := Json.ofPairs [("query", .string "x")]
    HandledBy bare "workspace/symbol" operation ∧
      ((Handler.fresh query).poll bare.recording operation (some false) ⟨(), []⟩).2 =
        .returned (.error (.engine "workspace/symbol" (.unsupported "workspace/symbol"))) ∧
      (Handler.fresh (.ofPairs [])).poll bare operation (some false) () =
        ((), .returned (.error (.invalidParams "workspace/symbol"
          (.mismatch (.missing "query") none)))) := by
  intro operation query
  have handled : HandledBy bare "workspace/symbol" operation :=
    handledBy_of_route bare (by decide +kernel)
  have first := handled.unsupported .workspaceSymbol rfl (fun _ _ _ => rfl) query query rfl _ _ _ _
    (.turn (.start ⟨(), []⟩) (some false))
  refine ⟨handled, ?_, (handled.refused (.ofPairs []) (.missing "query") rfl).1 (some false) ()⟩
  obtain fresh | ⟨error, returned, rfl, -⟩ := first
  · exact absurd fresh (handled.begins _ _ _ _)
  · exact returned

end Dispatch

end LspGateway
