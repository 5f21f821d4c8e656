import LspGateway.Proofs.Session.Handling

/-!
# What the answers of the engine come to

The engine answers a message that waits in its turn, or a task. Either goes on
waiting, or it ends: then the request behind it is answered under its identifier,
a notification is seen through, and the exit ends the session. A task whose
parameters do not fit ends without the engine. Here too everything is said up to
reports and forwarded events.
-/

namespace LspGateway.Session

variable {state pending : Type}

/-! ## Messages that wait in their turn -/

/-- The lifecycle once a duty has ended: a handshake that the engine does not
accept is taken back. -/
def Duty.settle : Duty → Engine.Outcome → Lifecycle → Lifecycle
  | .opening _, .result _, lifecycle => lifecycle
  | .opening _, _, lifecycle => lifecycle.abortHandshake
  | _, _, lifecycle => lifecycle

/-- What the end of a duty comes to. -/
inductive Concluded (m : Engine state pending) (session : Session state pending) (duty : Duty)
    (outcome : Engine.Outcome) : Session state pending → Prop where
  /-- The request behind the duty is answered. -/
  | answered {told : Session state pending} (id : RequestId) (answer : Answer)
      (asker : duty.asker? = some id)
      (alike : { session with lifecycle := duty.settle outcome session.lifecycle }.Alike told) :
      Concluded m session duty outcome (told.send (.response (some id) answer))
  /-- The notification behind the duty is seen through. -/
  | seen {told : Session state pending} (asker : duty.asker? = none) (stays : duty ≠ .exit)
      (alike : session.Alike told) : Concluded m session duty outcome told
  /-- The session ends. -/
  | left {told : Session state pending} (leaves : duty = .exit) (alike : session.Alike told) :
      Concluded m session duty outcome (told.terminate m .exit)

/-- What the answer of the engine comes to in a message that waits in its turn. -/
inductive Continued (m : Engine state pending) (session : Session state pending) (duty : Duty)
    (answer : state × Engine.Turn pending) : Session state pending → Prop where
  /-- The message goes on waiting. -/
  | waits {told : Session state pending} (call : pending)
      (progress : answer.2.progress = .waiting call)
      (alike : ((session.withEngine answer.1).withTurn (some ⟨duty, call⟩)).Alike told) :
      Continued m session duty answer told
  /-- The duty ends. -/
  | ends {told after : Session state pending} (outcome : Engine.Outcome)
      (progress : answer.2.progress = .done outcome)
      (alike : ((session.withEngine answer.1).withTurn none).Alike told)
      (concluded : Concluded m told duty outcome after) : Continued m session duty answer after

section Turns

variable {m : Engine state pending} {session : Session state pending} {duty : Duty}

/-- An answer that ends a duty. -/
theorem concluded_reply {told : Session state pending} {id : RequestId}
    {outcome : Engine.Outcome} (asker : duty.asker? = some id)
    (alike : { session with lifecycle := duty.settle outcome session.lifecycle }.Alike told)
    (method : String) (result : Except Dispatch.Error Json) :
    Concluded m session duty outcome (told.reply id method result) := by
  obtain ⟨reported, answer, ha, heq⟩ := reply_eq told id method result
  rw [heq]
  exact .answered id answer asker (alike.trans ha)

/-- Every end of a duty comes to one of these. -/
theorem conclude_concluded (outcome : Engine.Outcome) :
    Concluded m session duty outcome (session.conclude m duty outcome).2 := by
  have told := Alike.report session (Dispatch.outcomeEntries duty.operation.method outcome)
  cases duty with
  | opening id =>
    cases outcome with
    | result value => exact concluded_reply rfl told (Duty.opening id).operation.method (.ok value)
    | failed error =>
      exact concluded_reply rfl ((told.withLifecycle _).trans (.pass _ _)) _ (.error _)
    | broke reason =>
      exact concluded_reply rfl ((told.withLifecycle _).trans (.pass _ _)) _ (.error _)
  | confirmation =>
    cases outcome with
    | result value => exact .seen rfl (by simp) told
    | failed error => exact .seen rfl (by simp) (told.trans (.report _ _))
    | broke reason => exact .seen rfl (by simp) (told.trans (.report _ _))
  | shutdown id => exact concluded_reply rfl told _ _
  | exit =>
    cases outcome with
    | result value => exact .left rfl told
    | failed error => exact .left rfl (told.trans (.report _ _))
    | broke reason => exact .left rfl (told.trans (.report _ _))
  | notice notice =>
    cases outcome with
    | result value => exact .seen rfl (by simp) told
    | failed error => exact .seen rfl (by simp) (told.trans (.report _ _))
    | broke reason => exact .seen rfl (by simp) (told.trans (.report _ _))

/-- Every answer of the engine comes to one of these. -/
theorem continueTurn_continued (h : session.bridge.OnlyForwards)
    (answer : state × Engine.Turn pending) :
    Continued m session duty answer (session.continueTurn m duty answer).2 := by
  have forwards : (session.withEngine answer.1).bridge.OnlyForwards := h
  have told := Alike.publish m forwards answer.2.events
  unfold continueTurn
  dsimp only
  split
  · next call progress => exact .waits call progress (told.withTurn _)
  · next outcome progress =>
    exact .ends outcome progress (told.withTurn none) (conclude_concluded outcome)

/-- The end leaves the tasks. -/
theorem tasks_terminate (m : Engine state pending) (session : Session state pending)
    (ending : Ending) : (session.terminate m ending).tasks = session.tasks ∧
      (session.terminate m ending).nextTicket = session.nextTicket := by
  unfold terminate
  split
  · exact ⟨rfl, rfl⟩
  · exact ⟨rfl, rfl⟩

/-- The end leaves the message that waits. -/
theorem turn_terminate (m : Engine state pending) (session : Session state pending)
    (ending : Ending) : (session.terminate m ending).turn = session.turn := by
  unfold terminate
  split <;> rfl

/-- A message that waits in its turn has nothing to do with the tasks. -/
theorem Continued.tasks {answer : state × Engine.Turn pending} {after : Session state pending}
    (hc : Continued m session duty answer after) :
    after.tasks = session.tasks ∧ after.nextTicket = session.nextTicket := by
  cases hc with
  | waits call progress alike => exact ⟨alike.tasks, alike.nextTicket⟩
  | @ends told after outcome progress alike concluded =>
    have same {last : Session state pending} (ht : last.tasks = told.tasks)
        (hn : last.nextTicket = told.nextTicket) :
        last.tasks = session.tasks ∧ last.nextTicket = session.nextTicket :=
      ⟨ht.trans alike.tasks, hn.trans alike.nextTicket⟩
    cases concluded with
    | answered id said asker hlast => exact same hlast.tasks hlast.nextTicket
    | seen asker stays hlast => exact same hlast.tasks hlast.nextTicket
    | @left last leaves hlast =>
      obtain ⟨htasks, hnext⟩ := tasks_terminate m last .exit
      exact same (htasks.trans hlast.tasks) (hnext.trans hlast.nextTicket)

end Turns

/-! ## Tasks -/

/-- The session without a task that is answered. -/
def retire (session : Session state pending) (task : Task pending) : Session state pending :=
  { session with
    registry := session.registry.ended task.id task.handle
    tasks := session.tasks.filter fun other => other.ticket != task.ticket }

/-- What the engine says when a task goes on; nothing, if the parameters do not
fit and it is not asked. -/
def consult (m : Engine state pending) (session : Session state pending) (task : Task pending) :
    Option (state × Engine.Turn pending) :=
  let cancelled := some (session.cancelledTask task)
  match task.stage with
  | .spawned params =>
    (Dispatch.decode (.feature task.feature) params).toOption.map fun call =>
      m.begin call cancelled session.bridge.engine
  | .waiting call => some (m.resume call cancelled session.bridge.engine)

/-- What letting a task go on comes to. -/
inductive Worked (m : Engine state pending) (session : Session state pending) (ticket : Nat) :
    Session state pending → Prop where
  /-- There is no such task. -/
  | absent (missing : session.task? ticket = none) : Worked m session ticket session
  /-- Its parameters do not fit. -/
  | refused {told : Session state pending} (task : Task pending) (answer : Answer)
      (found : session.task? ticket = some task) (consulted : session.consult m task = none)
      (alike : (session.retire task).Alike told) :
      Worked m session ticket (told.send (.response (some task.id) answer))
  /-- It waits for the engine. -/
  | parked {told : Session state pending} (task : Task pending)
      (turn : state × Engine.Turn pending) (call : pending)
      (found : session.task? ticket = some task) (consulted : session.consult m task = some turn)
      (progress : turn.2.progress = .waiting call)
      (alike : ((session.withEngine turn.1).park task call).Alike told) :
      Worked m session ticket told
  /-- It is answered. -/
  | answered {told : Session state pending} (task : Task pending)
      (turn : state × Engine.Turn pending) (outcome : Engine.Outcome) (answer : Answer)
      (found : session.task? ticket = some task) (consulted : session.consult m task = some turn)
      (progress : turn.2.progress = .done outcome)
      (alike : ((session.withEngine turn.1).retire task).Alike told) :
      Worked m session ticket (told.send (.response (some task.id) answer))

/-- Sessions that are alike remain so without a task. -/
theorem Alike.retire {before after : Session state pending} (h : before.Alike after)
    (task : Task pending) : (before.retire task).Alike (after.retire task) :=
  { h with
    registry := by
      change after.registry.ended task.id task.handle = before.registry.ended task.id task.handle
      rw [h.registry]
    tasks := by
      change after.tasks.filter _ = before.tasks.filter _
      rw [h.tasks] }

/-- Sessions that are alike remain so with a task kept. -/
theorem Alike.park {before after : Session state pending} (h : before.Alike after)
    (task : Task pending) (call : pending) : (before.park task call).Alike (after.park task call) :=
  { h with
    tasks := by
      change after.tasks.map _ = before.tasks.map _
      rw [h.tasks] }

section Tasks

variable {m : Engine state pending} {session : Session state pending}

/-- Ending a task retires it and answers its request. -/
theorem finish_eq (session : Session state pending) (task : Task pending)
    (result : Except Dispatch.Error Json) :
    session.finish task result = (session.retire task).reply task.id task.feature.method result :=
  rfl

/-- What the engine says in a task. -/
theorem continueTask_worked (h : session.bridge.OnlyForwards) {task : Task pending}
    {ticket : Nat} (found : session.task? ticket = some task) {turn : state × Engine.Turn pending}
    (consulted : session.consult m task = some turn) :
    Worked m session ticket (session.continueTask m task turn) := by
  have forwards : (session.withEngine turn.1).bridge.OnlyForwards := h
  have told := Alike.publish m forwards turn.2.events
  unfold continueTask
  dsimp only
  split
  · next call progress => exact .parked task turn call found consulted progress (told.park task call)
  · next outcome progress =>
    rw [finish_eq]
    obtain ⟨reported, answer, ha, heq⟩ := reply_eq _ task.id task.feature.method
      (Dispatch.conclude task.feature.method outcome)
    rw [heq]
    exact .answered task turn outcome answer found consulted progress
      (((told.trans (.report _ _)).retire task).trans ha)

/-- Every turn of a task comes to one of these. -/
theorem runTask_worked (h : session.bridge.OnlyForwards) (ticket : Nat) :
    Worked m session ticket (session.runTask m ticket) := by
  unfold runTask
  split
  · next missing => exact .absent missing
  · next task found =>
    dsimp only
    split
    · next params hstage =>
      split
      · next error hdecode =>
        rw [finish_eq]
        obtain ⟨reported, answer, ha, heq⟩ := reply_eq (session.retire task) task.id
          task.feature.method (.error error)
        rw [heq]
        refine .refused task answer found ?_ ha
        simp [consult, hstage, hdecode, Except.toOption]
      · next call hdecode =>
        refine continueTask_worked h found ?_
        simp [consult, hstage, hdecode, Except.toOption]
    · next call hstage =>
      refine continueTask_worked h found ?_
      simp [consult, hstage]

/-- Tasks leave the message that waits. -/
theorem Worked.turn {ticket : Nat} {after : Session state pending}
    (hw : Worked m session ticket after) : after.turn = session.turn := by
  cases hw with
  | absent missing => rfl
  | refused task answer found consulted alike => exact alike.turn
  | parked task turn call found consulted progress alike => exact alike.turn
  | answered task turn outcome answer found consulted progress alike => exact alike.turn

/-- A task that goes on does not change the lifecycle. -/
theorem Worked.lifecycle {ticket : Nat} {after : Session state pending}
    (hw : Worked m session ticket after) : after.lifecycle = session.lifecycle := by
  cases hw with
  | absent missing => rfl
  | refused task answer found consulted alike => exact alike.lifecycle
  | parked task turn call found consulted progress alike => exact alike.lifecycle
  | answered task turn outcome answer found consulted progress alike => exact alike.lifecycle

end Tasks

end LspGateway.Session
