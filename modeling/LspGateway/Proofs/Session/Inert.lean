import LspGateway.Proofs.Session.Completion
import Mathlib.Data.List.Induction

/-!
# Frames that are of no consequence

Much of what a client may send at the wrong time, or in the wrong way, is met with a report and
with nothing else: no message is queued, the engine is not asked, and whatever the session knows
is as before. That also goes for a request whose identifier is still taken. The request that has
taken it goes on as if nothing had come, and is answered by what the engine comes to in it.
-/

namespace LspGateway

namespace Session

variable {state pending : Type}

/-- The methods of requests. -/
inductive Asks : String → Prop where
  /-- To open the handshake. -/
  | opening : Asks "initialize"
  /-- To begin the shutdown. -/
  | shutdown : Asks "shutdown"
  /-- What the engine is asked for. -/
  | feature (feature : Engine.Feature) : Asks feature.method

/-- The messages that are of no consequence to a session. -/
inductive Inert (session : Session state pending) : Incoming → Prop where
  /-- A response, though nothing is ever asked of the client. -/
  | response (id : Option RequestId) (result : Option Json) (error : Option ResponseError) :
      Inert session (.response id result error)
  /-- A notification that leads nowhere. -/
  | unrouted {method : String} (params : Json)
      (nowhere : MethodTable.standard.route? method = none) :
      Inert session (.notification method params)
  /-- A notification that should be a request. -/
  | misdirected {method : String} (params : Json) (asks : Asks method) :
      Inert session (.notification method params)
  /-- The confirmation of a handshake that is not open. -/
  | unexpected (params : Json) (phase : session.lifecycle.phase ≠ .initializing) :
      Inert session (.notification "initialized" params)
  /-- A notification for the engine, in a phase in which it gets none. -/
  | untimely (notice : Engine.Notice) (params : Json)
      (phase : session.lifecycle.phase ≠ .initialized) :
      Inert session (.notification notice.method params)
  /-- A cancellation that names no request, or one that is not outstanding. -/
  | aimless {method : String} (params : Json)
      (cancels : method = "$/cancelRequest" ∨ method = "cancelRequest")
      (target : ∀ id, cancelTarget? params = some id → session.registry.live? id = none) :
      Inert session (.notification method params)
  /-- A request for a feature whose identifier is taken by one that is outstanding. -/
  | duplicate (id : RequestId) (feature : Engine.Feature) (params : Json)
      (phase : session.lifecycle.phase = .initialized)
      (taken : (session.registry.live? id).isSome = true) :
      Inert session (.request id feature.method params)

/-- What is left of a session as it was when all that happens is a report. -/
structure Undisturbed (before after : Session state pending) : Prop where
  /-- No message is queued, and the queue is as it was. -/
  outbound : after.bridge.outbound = before.bridge.outbound
  /-- The engine is as it was. -/
  engine : after.bridge.engine = before.bridge.engine
  /-- The session stands where it stood. -/
  lifecycle : after.lifecycle = before.lifecycle
  /-- The same requests are outstanding, and no other is cancelled. -/
  registry : after.registry = before.registry
  /-- The same tasks are to be answered, in the same order. -/
  tasks : after.tasks = before.tasks
  /-- The same message waits for the engine, if any. -/
  turn : after.turn = before.turn
  /-- The supervisors are as they were. -/
  supervisors : after.bridge.supervisors = before.bridge.supervisors
  /-- The same supervisor is in charge. -/
  attached : after.bridge.attached = before.bridge.attached
  /-- No process has been asked for. -/
  probed : after.probed = before.probed
  /-- The next frame is read if it was to be read before. -/
  reads : after.reads = before.reads
  /-- Nor is anything else changed. -/
  reported : ∃ entries, after = before.report entries

/-- A report leaves everything else as it was. -/
theorem Undisturbed.report (session : Session state pending) (entries : List Log.Entry) :
    session.Undisturbed (session.report entries) :=
  ⟨rfl, rfl, rfl, rfl, rfl, rfl, rfl, rfl, rfl, rfl, entries, rfl⟩

/-- A request is of no consequence only if its identifier is taken. -/
theorem Inert.taken {session : Session state pending} {id : RequestId} {method : String}
    {params : Json} (inert : session.Inert (.request id method params)) :
    (session.registry.live? id).isSome = true := by
  cases inert with
  | duplicate _ _ _ _ taken => exact taken

/-! ## Handling -/

section Handling

variable {session : Session state pending}

/-- A notification that should be a request is ignored. -/
theorem handleNotification_of_asks (session : Session state pending) {method : String}
    (asks : Asks method) (params : Json) :
    ∃ entries, ∀ asked : Engine state pending,
      session.handleNotification asked method params = (.on, session.report entries) := by
  have route : MethodTable.standard.route? method = some (.control .opening) ∨
      MethodTable.standard.route? method = some (.control .shutdown) ∨
      ∃ feature, MethodTable.standard.route? method = some (.feature feature) := by
    cases asks with
    | opening => exact .inl (by decide +kernel)
    | shutdown => exact .inr (.inl (by decide +kernel))
    | feature feature => exact .inr (.inr ⟨feature, MethodTable.route?_standard_feature feature⟩)
  refine ⟨[⟨.warn, .dispatch, "request method sent as a notification; ignoring",
    [("method", .text method)]⟩], fun asked => ?_⟩
  unfold handleNotification
  rcases route with route | route | ⟨feature, route⟩ <;> rw [route]

/-- A cancellation that reaches no request is ignored. -/
theorem cancel_of_aimless {params : Json}
    (target : ∀ id, cancelTarget? params = some id → session.registry.live? id = none) :
    ∃ entries, session.cancel params = session.report entries := by
  unfold cancel
  dsimp only
  cases canonical : (Protocol.cancelParams RequestId.shape).canonical params with
  | error mismatch => exact ⟨_, rfl⟩
  | ok record =>
    dsimp only
    cases named : RequestId.ofJson ((record.get? "id").getD .null) with
    | error mismatch => exact ⟨_, rfl⟩
    | ok id =>
      dsimp only
      have free := target id (by simp [cancelTarget?, canonical, named, Except.toOption])
      have missed : session.registry.cancel id = (false, session.registry) := by
        simp [Registry.cancel, free]
      rw [missed]
      exact ⟨_, rfl⟩

/-- A request under an identifier that is taken is dropped. -/
theorem spawn_of_taken {id : RequestId} (phase : session.lifecycle.phase = .initialized)
    (held : session.bridge.released = false)
    (taken : (session.registry.live? id).isSome = true) (feature : Engine.Feature) (params : Json) :
    ∃ entries, session.spawn id feature params = session.report entries := by
  obtain ⟨number, live⟩ := Option.isSome_iff_exists.mp taken
  have admitted : session.lifecycle.admitRequest feature.method = .ok () := by
    simp [Lifecycle.admitRequest, phase]
  unfold spawn
  rw [admitted]
  dsimp only
  rw [if_neg (by rw [held]; decide), Registry.register_of_live live]
  exact ⟨_, rfl⟩

/-- A message of no consequence is met with a report, whatever the engine is. -/
theorem Inert.handled {message : Incoming} (inert : session.Inert message)
    (held : session.bridge.released = false) {payload : Bytes}
    (decoded : Incoming.decode payload = .ok message) :
    ∃ entries, ∀ (asked : Engine state pending) (world : World),
      session.handleFrame asked world payload = (.on, session.report entries) := by
  unfold handleFrame
  rw [decoded]
  cases inert with
  | response id result error => exact ⟨_, fun _ _ => rfl⟩
  | @unrouted method params nowhere =>
    refine ⟨[⟨.debug, .dispatch, "ignoring unrouted notification", [("method", .text method)]⟩],
      fun asked _ => ?_⟩
    dsimp only
    rw [handleNotification, nowhere]
  | misdirected params asks =>
    obtain ⟨entries, ignored⟩ := handleNotification_of_asks session asks params
    exact ⟨entries, fun asked _ => ignored asked⟩
  | unexpected params phase =>
    have route : MethodTable.standard.route? "initialized" = some (.control .confirmation) := by
      decide +kernel
    have closed : session.lifecycle.completeHandshake? = none := by
      unfold Lifecycle.completeHandshake?
      split
      · next opened => exact absurd opened phase
      · rfl
    refine ⟨[⟨.warn, .dispatch, "ignoring initialized notification",
      [("state", .shown session.lifecycle.phase.label)]⟩], fun asked _ => ?_⟩
    dsimp only
    rw [handleNotification, route]
    dsimp only
    rw [confirmHandshake, closed]
  | untimely notice params phase =>
    have barred : session.lifecycle.admitsNotifications = false := by
      simpa [Lifecycle.admitsNotifications] using phase
    refine ⟨[⟨.warn, .dispatch, "dropping notification outside the initialized state",
      [("method", .text notice.method), ("state", .shown session.lifecycle.phase.label)]⟩],
      fun asked _ => ?_⟩
    dsimp only
    rw [handleNotification, MethodTable.route?_standard_notice]
    dsimp only
    rw [forward, barred]
    rfl
  | aimless params cancels target =>
    obtain ⟨entries, ignored⟩ := cancel_of_aimless target
    refine ⟨entries, fun asked _ => ?_⟩
    dsimp only
    have route : ∀ method, method = "$/cancelRequest" ∨ method = "cancelRequest" →
        MethodTable.standard.route? method = some (.control .cancel) := by
      rintro method (rfl | rfl) <;> decide +kernel
    rw [handleNotification, route _ cancels]
    dsimp only
    rw [ignored]
  | duplicate id feature params phase taken =>
    obtain ⟨entries, dropped⟩ := spawn_of_taken phase held taken feature params
    refine ⟨entries, fun asked world => ?_⟩
    dsimp only
    rw [handleRequest, MethodTable.route?_standard_feature]
    dsimp only
    rw [dropped]

end Handling

/-! ## Requests that go on -/

/-- A task later on: it may wait for the engine by then, but it is the same request. -/
structure Task.GoesOn (task later : Task pending) : Prop where
  /-- Its ticket is the same. -/
  ticket : later.ticket = task.ticket
  /-- Its identifier is the same. -/
  id : later.id = task.id
  /-- What is asked for is the same. -/
  feature : later.feature = task.feature
  /-- Its handle is the same. -/
  handle : later.handle = task.handle
  /-- It has the parameters that it came with, or they are with the engine. -/
  stage : later.stage = task.stage ∨ ∃ call, later.stage = .waiting call

/-- A task goes on as it is. -/
theorem Task.GoesOn.refl (task : Task pending) : task.GoesOn task :=
  ⟨rfl, rfl, rfl, rfl, .inl rfl⟩

/-- A task that goes on waits for the engine once it has begun to. -/
theorem Task.GoesOn.trans {task later last : Task pending} (first : task.GoesOn later)
    (second : later.GoesOn last) : task.GoesOn last where
  ticket := second.ticket.trans first.ticket
  id := second.id.trans first.id
  feature := second.feature.trans first.feature
  handle := second.handle.trans first.handle
  stage := by
    rcases second.stage with same | waits
    · rw [same]
      exact first.stage
    · exact .inr waits

/-- The call of a task ends in its next turn, and comes to an outcome. -/
def EndsWith (m : Engine state pending) (session : Session state pending) (task : Task pending)
    (outcome : Engine.Outcome) : Prop :=
  ∀ turn, session.consult m task = some turn → turn.2.progress = .done outcome

section GoingOn

variable {m : Engine state pending} {session : Session state pending}

/-- In its own turn a task waits for the engine, or it is answered by what the engine comes to. -/
theorem Coherent.worked_on (h : session.Coherent) {task : Task pending}
    (member : task ∈ session.tasks) :
    (∃ later ∈ (session.runTask m task.ticket).tasks, task.GoesOn later) ∨
      ∃ outcome, session.EndsWith m task outcome ∧
        session.Leaves task (task.answer outcome) (session.runTask m task.ticket) := by
  have worked : Worked m session task.ticket (session.runTask m task.ticket) :=
    runTask_worked h.onlyForwards task.ticket
  have ended {outcome : Engine.Outcome} (ends : session.EndsWith m task outcome) :
      ∃ outcome, session.EndsWith m task outcome ∧
        session.Leaves task (task.answer outcome) (session.runTask m task.ticket) :=
    ⟨outcome, ends, h.leaves_runTask member ends⟩
  have own {found : Task pending} (same : session.task? task.ticket = some found) :
      found = task := by
    rw [h.task?_of_mem member] at same
    exact (Option.some.inj same).symm
  generalize session.runTask m task.ticket = after at worked ended ⊢
  cases worked with
  | absent missing =>
    rw [h.task?_of_mem member] at missing
    cases missing
  | refused found answer same consulted alike =>
    obtain rfl := own same
    -- The engine is not asked, so any outcome will do.
    exact .inr (@ended (.broke none) fun turn told => by
      rw [consulted] at told
      cases told)
  | parked found turn call same consulted progress alike =>
    obtain rfl := own same
    refine .inl ⟨{ found with stage := .waiting call }, ?_, rfl, rfl, rfl, rfl, .inr ⟨call, rfl⟩⟩
    rw [alike.tasks]
    exact List.mem_map.mpr ⟨found, member, if_pos (beq_self_eq_true _)⟩
  | answered found turn outcome answer same consulted progress alike =>
    obtain rfl := own same
    refine .inr (@ended outcome fun other told => ?_)
    rw [consulted] at told
    rw [← Option.some.inj told, progress]

/-- In an act a task goes on, or the act is its turn and it is answered by what the engine comes
to. -/
theorem Coherent.goes_on (h : session.Coherent) (act : Act state) {task : Task pending}
    (member : task ∈ session.tasks) :
    (∃ later ∈ (session.perform m act).tasks, task.GoesOn later) ∨
      act = .work task.ticket ∧ ∃ outcome, session.EndsWith m task outcome ∧
        session.Leaves task (task.answer outcome) (session.perform m act) := by
  by_cases own : act = .work task.ticket
  · subst own
    exact (h.worked_on member).imp id fun left => ⟨rfl, left⟩
  · -- Other acts add a task, take another one away, or make another one wait.
    have passage := h.passage (m := m) act
    generalize session.perform m act = after at passage
    refine .inl ?_
    cases passage with
    | same tasks idle => exact ⟨task, tasks ▸ member, .refl task⟩
    | came world payload id feature params decoded free tasks =>
      exact ⟨task, tasks ▸ List.mem_append_left _ member, .refl task⟩
    | waits parked among call tasks silent =>
      refine ⟨task, ?_, .refl task⟩
      rw [tasks]
      refine List.mem_map.mpr ⟨task, member, if_neg ?_⟩
      simpa using fun same => own (congrArg Act.work same.symm)
    | left gone among answer leaves =>
      refine ⟨task, ?_, .refl task⟩
      rw [leaves.tasks]
      refine List.mem_filter.mpr ⟨member, ?_⟩
      simpa using fun same => own (congrArg Act.work same.symm)

end GoingOn

/-- A session goes on from wherever it is: a request stays until its call has ended, and then it is
answered by the outcome. -/
structure Pursued (m : Engine state pending) (session : Session state pending)
    (task : Task pending) : Prop where
  /-- Whatever happens, the request is there, unless its call has ended in a turn of its own. -/
  stays : ∀ acts : List (Act state),
    (∃ later ∈ (acts.foldl (perform m) session).tasks, task.GoesOn later) ∨
      ∃ first rest, acts = first ++ .work task.ticket :: rest ∧
        ∃ later ∈ (first.foldl (perform m) session).tasks, task.GoesOn later ∧
          ∃ outcome, (first.foldl (perform m) session).EndsWith m later outcome
  /-- The turn in which the call ends queues the answer to the request and no other response, and
  the request is gone. -/
  answered : ∀ acts : List (Act state), let found := acts.foldl (perform m) session
    found.hasEnded = false → ∀ later ∈ found.tasks, task.GoesOn later →
      ∀ outcome, found.EndsWith m later outcome →
        (found.perform m (.work task.ticket)).replies =
            found.replies ++ [.response (some task.id) (later.answer outcome)] ∧
          ∀ other ∈ (found.perform m (.work task.ticket)).tasks, other.ticket ≠ task.ticket

section GoingOn

variable {m : Engine state pending} {session : Session state pending}

/-- A coherent session is coherent after whatever acts. -/
theorem Coherent.performs (h : session.Coherent) (acts : List (Act state)) :
    (acts.foldl (Session.perform m) session).Coherent := by
  induction acts generalizing session with
  | nil => exact h
  | cons act rest ih => exact ih (h.perform act)

/-- Every request of a coherent session is pursued. -/
theorem Coherent.pursued (h : session.Coherent) {task : Task pending}
    (member : task ∈ session.tasks) : session.Pursued m task where
  stays := fun acts => by
    -- The last act is looked at in the session that the others have led to.
    induction acts using List.reverseRecOn with
    | nil => exact .inl ⟨task, member, .refl task⟩
    | append_singleton acts act ih =>
      rcases ih with ⟨later, there, on⟩ | ⟨first, rest, rfl, ended⟩
      · rw [List.foldl_append]
        refine ((h.performs acts).goes_on (m := m) act there).imp ?_ ?_
        · rintro ⟨last, remains, further⟩
          exact ⟨last, remains, on.trans further⟩
        · rintro ⟨rfl, outcome, ends, -⟩
          exact ⟨acts, [], by rw [on.ticket], later, there, on, outcome, ends⟩
      · exact .inr ⟨first, rest ++ [act], by simp, ended⟩
  answered := by
    intro acts found lives later there on outcome ends
    have coherent : found.Coherent := h.performs acts
    have leaves : found.Leaves later (later.answer outcome) (found.runTask m later.ticket) :=
      coherent.leaves_runTask there ends
    rw [← on.ticket, ← on.id]
    refine ⟨leaves.replies coherent lives there, fun other remains same => ?_⟩
    have kept : other ∈ (found.runTask m later.ticket).tasks := remains
    rw [leaves.tasks] at kept
    simpa [same] using (List.mem_filter.mp kept).2

end GoingOn

end Session

namespace Chronicle

variable {state pending : Type}

/-- In every run, as long as the session lasts, a frame of no consequence is met with a report,
whatever the engine is, so it is not asked; everything else is as it was, and the session reads
on. If the frame is a request, another one has its identifier, and is answered in the end by what
the engine comes to in it. -/
theorem inert_changes_nothing (m : Engine state pending) (engine : state) (config : SessionConfig)
    (acts : List (Session.Act state)) {payload : Bytes} {message : Incoming}
    (lives : ((start engine config).run m acts).session.hasEnded = false)
    (decoded : Incoming.decode payload = .ok message)
    (inert : ((start engine config).run m acts).session.Inert message) :
    let found := ((start engine config).run m acts).session
    ∃ after : Session state pending,
      (∀ (asked : Engine state pending) (world : Session.World),
        found.handleFrame asked world payload = (.on, after)) ∧
      found.Undisturbed after ∧
      ∀ id method params, message = .request id method params →
        ∃ original ∈ after.tasks, original.id = id ∧
          (∀ other ∈ after.tasks, other.id = id → other = original) ∧
          after.Pursued m original := by
  intro found
  have coherent : found.Coherent := coherent_run_start m engine config acts
  obtain ⟨entries, handled⟩ := inert.handled (coherent.held lives) decoded
  refine ⟨found.report entries, handled, .report found entries, ?_⟩
  rintro id method params rfl
  obtain ⟨number, live⟩ := Option.isSome_iff_exists.mp inert.taken
  obtain ⟨original, member, named, -⟩ := (coherent.agreement.live id number).mp live
  have reported : (found.report entries).Coherent := coherent.alike (.report found entries)
  exact ⟨original, member, named,
    fun other among same => coherent.agreement.eq_of_id among member (same.trans named.symm),
    reported.pursued member⟩

/-- The payload of a request for the hover text. -/
def Sample.hoverPayload : Bytes :=
  request "1" "textDocument/hover" ("\x7b\"textDocument\":\x7b\"uri\":\"file:///a\"\x7d," ++
    "\"position\":\x7b\"line\":0,\"character\":0\x7d\x7d")

/-- A session with a request for the hover text that has no answer yet. -/
def Sample.hovering : Session Unit Empty :=
  ((start () ⟨2000, 1000⟩).run Engine.bare
    (handshake ++ [receive hoverPayload])).session

/-- Whether a payload holds a request for the hover text, under the number one. -/
def Sample.asksHover (payload : Bytes) : Bool :=
  match Incoming.decode payload with
  | .ok (.request id method _) => id == .number 1 && method == Engine.Feature.hover.method
  | _ => false

/-- Such a payload is decoded to such a request. -/
theorem Sample.decode_of_asksHover {payload : Bytes} (asks : asksHover payload = true) :
    ∃ params, Incoming.decode payload =
      .ok (.request (.number 1) Engine.Feature.hover.method params) := by
  unfold asksHover at asks
  split at asks
  · next id method params decoded =>
    obtain ⟨rfl, rfl⟩ : id = .number 1 ∧ method = Engine.Feature.hover.method := by
      simpa using asks
    exact ⟨params, decoded⟩
  · cases asks

set_option maxRecDepth 2000 in
/-- The hover text is asked for once more under the same number. -/
theorem inert_changes_nothing_hover_twice :
    ∃ params, Sample.hovering.hasEnded = false ∧
      Incoming.decode Sample.hoverPayload =
        .ok (.request (.number 1) Engine.Feature.hover.method params) ∧
      Sample.hovering.Inert (.request (.number 1) Engine.Feature.hover.method params) ∧
      ∃ after : Session Unit Empty,
        (∀ (asked : Engine Unit Empty) (world : Session.World),
          Sample.hovering.handleFrame asked world Sample.hoverPayload = (.on, after)) ∧
        Sample.hovering.Undisturbed after ∧
        ∀ id method others, Incoming.request (.number 1) Engine.Feature.hover.method params =
            .request id method others →
          ∃ original ∈ after.tasks, original.id = id ∧
            (∀ other ∈ after.tasks, other.id = id → other = original) ∧
            after.Pursued Engine.bare original := by
  have facts : (Sample.hovering.hasEnded = false ∧
      Sample.hovering.lifecycle.phase = .initialized ∧
      (Sample.hovering.registry.live? (.number 1)).isSome = true) ∧
      Sample.asksHover Sample.hoverPayload = true := by
    decide +kernel
  obtain ⟨⟨lives, phase, taken⟩, asks⟩ := facts
  obtain ⟨params, decoded⟩ := Sample.decode_of_asksHover asks
  have inert : Sample.hovering.Inert (.request (.number 1) Engine.Feature.hover.method params) :=
    .duplicate (.number 1) .hover params phase taken
  exact ⟨params, lives, decoded, inert, inert_changes_nothing Engine.bare () ⟨2000, 1000⟩
    (Sample.handshake ++ [Sample.receive Sample.hoverPayload]) lives decoded inert⟩

end Chronicle

end LspGateway
