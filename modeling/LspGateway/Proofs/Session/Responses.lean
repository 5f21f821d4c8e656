import LspGateway.Engine.Bare
import LspGateway.Proofs.Session.Completion
import Mathlib.Data.List.Count
import Mathlib.Data.Option.Basic

/-!
# Responses are accounted for

At every point of every run before the end, the responses under an identifier
are as many as the requests handled with it and the messages rejected with it,
less the requests that were dropped because the identifier was taken and less
those that are still to be answered. What is still to be answered hangs on the
engine: a request is owed until the call made for it ends, and is answered in the
turn in which it does. Notifications and responses of the client are not
answered, and after the end nothing is.

The counts are taken from the chronicle alone; nothing in them refers to how the
messages are handled.
-/

namespace LspGateway

namespace Session.Receipt

variable {state pending : Type}

/-- Whether the frame holds a request with an identifier. -/
def asks (receipt : Receipt state pending) (id : RequestId) : Bool :=
  match Incoming.decode receipt.payload with
  | .ok (.request other _ _) => other == id
  | _ => false

/-- Whether the frame holds a request for a feature with an identifier that an
outstanding request for a feature had already, in a session that would otherwise
have taken it in. -/
def isDropped (receipt : Receipt state pending) (id : RequestId) : Bool :=
  match Incoming.decode receipt.payload with
  | .ok (.request other method _) => other == id && receipt.found.duplicates other method
  | _ => false

/-- Whether the frame was rejected with an identifier that could be read, or with
none. -/
def isRejected (receipt : Receipt state pending) (key : Option RequestId) : Bool :=
  match Incoming.decode receipt.payload with
  | .error rejection => rejection.id? == key
  | _ => false

/-- Whether the frame holds a notification, or a response of the client. -/
def isUnanswerable (payload : Bytes) : Bool :=
  match Incoming.decode payload with
  | .ok (.notification _ _) | .ok (.response _ _ _) => true
  | _ => false

/-- A frame is due under an identifier, or dropped, if it is a request with it;
and it is due if it is rejected with it. -/
theorem due_add_isDropped (receipt : Receipt state pending) (id : RequestId) :
    (receipt.due == some (some id)).toNat + (receipt.isDropped id).toNat =
      (receipt.asks id).toNat + (receipt.isRejected (some id)).toNat := by
  unfold due isDropped asks isRejected Session.due
  cases Incoming.decode receipt.payload with
  | error rejection => cases hid : rejection.id? == some id <;> simp_all
  | ok message =>
    cases message with
    | request other method params =>
      cases hd : receipt.found.duplicates other method <;> cases ho : other == id <;> simp_all
    | notification method params => rfl
    | response other result error => rfl

/-- A frame is due without identifier if it is rejected without one. -/
theorem due_none (receipt : Receipt state pending) :
    (receipt.due == some none) = receipt.isRejected none := by
  unfold due isRejected Session.due
  cases Incoming.decode receipt.payload with
  | error rejection => cases rejection.id? <;> rfl
  | ok message =>
    cases message with
    | request other method params =>
      cases hd : receipt.found.duplicates other method <;> simp [hd]
    | notification method params => rfl
    | response other result error => rfl

/-- Nothing is due for a notification or a response of the client. -/
theorem due_of_isUnanswerable {payload : Bytes} (h : isUnanswerable payload = true)
    (session : Session state pending) : session.due payload = none := by
  unfold isUnanswerable at h
  unfold Session.due
  split at h <;> simp_all

end Session.Receipt

namespace Session

variable {state pending : Type} {m : Engine state pending} {session : Session state pending}

/-- Whoever does not ask is not answered. -/
theorem Continued.answered_of_silent {duty : Duty} {answer : state × Engine.Turn pending}
    {after : Session state pending} (hc : Continued m session duty answer after)
    (h : session.Coherent) (fits : duty.FitsIn session.lifecycle.phase)
    (silent : duty.asker? = none) : after.answered = session.answered := by
  cases hc with
  | waits call progress alike => exact alike.answered
  | @ends told after outcome progress alike concluded =>
    cases concluded with
    | answered id answer asker hlast => exact absurd (silent.symm.trans asker) (by simp)
    | seen asker stays hlast => exact hlast.answered.trans alike.answered
    | @left last leaves hlast =>
      have lastCoherent := ((h.withEngine answer.1).withoutTurn.alike alike).alike hlast
      have lives : last.hasEnded = false := by
        have hne := fits.ne_exited
        unfold Session.hasEnded
        rw [hlast.lifecycle, alike.lifecycle]
        exact beq_false_of_ne hne
      have finished := lastCoherent.terminated m lives .exit
      exact finished.answered.trans (hlast.answered.trans alike.answered)

/-- While the engine leaves the call waiting nobody is answered, and the message waits. -/
theorem Continued.answered_of_waiting {duty : Duty} {answer : state × Engine.Turn pending}
    {after : Session state pending} (hc : Continued m session duty answer after) {call : pending}
    (waiting : answer.2.progress = .waiting call) :
    after.answered = session.answered ∧ after.turn = some ⟨duty, call⟩ := by
  cases hc with
  | waits other progress alike =>
    cases waiting.symm.trans progress
    exact ⟨alike.answered, alike.turn⟩
  | ends outcome progress alike concluded => cases waiting.symm.trans progress

/-- Whoever asks is answered once the call has ended, and does not wait any more. -/
theorem Continued.answered_of_asker {duty : Duty} {answer : state × Engine.Turn pending}
    {after : Session state pending} (hc : Continued m session duty answer after)
    (h : session.Coherent) (fits : duty.FitsIn session.lifecycle.phase) {id : RequestId}
    (asker : duty.asker? = some id) {outcome : Engine.Outcome}
    (done : answer.2.progress = .done outcome) :
    after.answered = session.answered ++ [some id] ∧ after.turn = none ∧
      after.hasEnded = false := by
  cases hc with
  | waits call progress alike => cases done.symm.trans progress
  | @ends told after ended progress alike concluded =>
    have toldCoherent := (h.withEngine answer.1).withoutTurn.alike alike
    have fitsTold : duty.FitsIn told.lifecycle.phase := alike.lifecycle ▸ fits
    have lives : told.hasEnded = false := by simpa [Session.hasEnded] using fitsTold.ne_exited
    cases concluded with
    | @answered last other said own hlast =>
      obtain rfl := Option.some.inj (own.symm.trans asker)
      have settled := Coherent.settle_ne_exited fitsTold ended
      have lasts : last.hasEnded = false := by
        unfold Session.hasEnded
        rw [hlast.lifecycle]
        exact beq_false_of_ne settled
      have sent := ((toldCoherent.withLifecycle lives alike.turn settled).alike hlast).answered_send
        lasts (some other) said
      refine ⟨?_, hlast.turn.trans alike.turn, lasts⟩
      rw [sent, hlast.answered]
      exact congrArg (· ++ _) alike.answered
    | seen silent stays hlast => cases silent.symm.trans asker
    | left leaves hlast => cases (leaves ▸ asker : Duty.exit.asker? = some id)

/-- A message for which nothing is due is not answered. -/
theorem Upshot.answered_of_silent {payload : Bytes} {after : Session state pending}
    (hu : Upshot m session payload after) (h : session.Coherent)
    (lives : session.hasEnded = false) (idle : session.turn = none)
    (silent : session.due payload = none) : after.answered = session.answered := by
  cases hu with
  | ignored due alike => exact alike.answered
  | cancelled id due alike => exact alike.answered
  | answered id answer due alike => exact absurd (silent.symm.trans due) (by simp)
  | enlisted id feature params decoded phase free due alike =>
    exact absurd (silent.symm.trans due) (by simp)
  | @asked told duty next call due starts operation alike =>
    obtain ⟨begun, fits⟩ := h.begun lives idle starts alike
    have asker : duty.asker? = none := Option.map_eq_none_iff.mp (due.symm.trans silent)
    exact ((begun.asked duty call).answered_of_silent begun fits asker).trans alike.answered

end Session

namespace Chronicle

variable {state pending : Type}

/-- How many responses under an identifier, or without one, were queued. -/
def responses (chronicle : Chronicle state pending) (key : Option RequestId) : Nat :=
  chronicle.queued.countP fun message => message.answers? == some key

/-- How many requests with an identifier were handled. -/
def requests (chronicle : Chronicle state pending) (id : RequestId) : Nat :=
  chronicle.receipts.countP fun receipt => receipt.asks id

/-- How many requests with an identifier were dropped because it was taken. -/
def dropped (chronicle : Chronicle state pending) (id : RequestId) : Nat :=
  chronicle.receipts.countP fun receipt => receipt.isDropped id

/-- How many frames were rejected with an identifier, or without one. -/
def rejections (chronicle : Chronicle state pending) (key : Option RequestId) : Nat :=
  chronicle.receipts.countP fun receipt => receipt.isRejected key

/-- How many requests with an identifier are still to be answered: the engine has
not ended its call, or was not yet asked. -/
def owed (chronicle : Chronicle state pending) (id : RequestId) : Nat :=
  chronicle.session.debts.count id

/-- A request with an identifier is answered: there is one more response under it, and it is
owed once less. -/
structure Answers (before after : Chronicle state pending) (id : RequestId) : Prop where
  /-- A response is queued. -/
  responded : after.responses (some id) = before.responses (some id) + 1
  /-- The request is not owed any more. -/
  paid : after.owed id + 1 = before.owed id

/-- The responses of a chronicle are accounted for. -/
structure Accounted (m : Engine state pending) (chronicle : Chronicle state pending) : Prop where
  /-- Before the end, a response for each request that is neither dropped nor
  still to be answered, and for each rejection. -/
  identified : chronicle.session.hasEnded = false → ∀ id,
    chronicle.responses (some id) + chronicle.dropped id + chronicle.owed id =
      chronicle.requests id + chronicle.rejections (some id)
  /-- Before the end, a response without identifier for each rejection without
  one. -/
  unidentified : chronicle.session.hasEnded = false →
    chronicle.responses none = chronicle.rejections none
  /-- Receiving a notification, or a response of the client, answers nothing. -/
  unanswerable : ∀ world payload, Session.Receipt.isUnanswerable payload = true → ∀ key,
    (chronicle.perform m (.receive world payload)).responses key = chronicle.responses key
  /-- Neither does going on with a notification. -/
  resumed : ∀ turn, chronicle.session.turn = some turn → turn.duty.asker? = none → ∀ key,
    (chronicle.perform m .resume).responses key = chronicle.responses key
  /-- Before the end, a task whose call ends in its turn is answered and goes, and so does one
  that the engine is not asked for because its parameters do not fit. -/
  ends : chronicle.session.hasEnded = false → ∀ task ∈ chronicle.session.tasks, ∀ outcome,
    (∀ turn, chronicle.session.consult m task = some turn → turn.2.progress = .done outcome) →
      chronicle.Answers (chronicle.perform m (.work task.ticket)) task.id ∧
      (chronicle.perform m (.work task.ticket)).session.tasks =
        chronicle.session.tasks.filter fun other => other.ticket != task.ticket
  /-- A task whose call the engine leaves waiting stays with that call, and nothing is
  answered. -/
  waits : ∀ task ∈ chronicle.session.tasks, ∀ turn call,
    chronicle.session.consult m task = some turn → turn.2.progress = .waiting call →
      (∀ key, (chronicle.perform m (.work task.ticket)).responses key = chronicle.responses key) ∧
      (chronicle.perform m (.work task.ticket)).session.tasks =
        (chronicle.session.park task call).tasks
  /-- Before the end, a request that waits in its turn is answered once its call has ended. -/
  concludes : chronicle.session.hasEnded = false → ∀ turn id, chronicle.session.turn = some turn →
    turn.duty.asker? = some id → ∀ outcome,
    (m.resume turn.call none chronicle.session.bridge.engine).2.progress = .done outcome →
      chronicle.Answers (chronicle.perform m .resume) id ∧
      (chronicle.perform m .resume).session.turn = none
  /-- As long as the engine leaves that call waiting, so does the request. -/
  holds : chronicle.session.hasEnded = false → ∀ turn call, chronicle.session.turn = some turn →
    (m.resume turn.call none chronicle.session.bridge.engine).2.progress = .waiting call →
      (∀ key, (chronicle.perform m .resume).responses key = chronicle.responses key) ∧
      (chronicle.perform m .resume).session.turn = some ⟨turn.duty, call⟩
  /-- After the end nothing is queued any more, whatever happens. -/
  ended : chronicle.session.hasEnded = true → ∀ acts,
    (chronicle.run m acts).queued = chronicle.queued

section Counts

variable {m : Engine state pending} {chronicle : Chronicle state pending}

/-- The responses are counted in the accounts. -/
theorem responses_eq (chronicle : Chronicle state pending) (key : Option RequestId) :
    chronicle.responses key = (chronicle.queued.filterMap Outgoing.answers?).count key :=
  List.count_filterMap.symm

/-- The responses and what is owed are counted together in the accounts. -/
theorem responses_add_owed (chronicle : Chronicle state pending) (id : RequestId) :
    chronicle.responses (some id) + chronicle.owed id = chronicle.accounts.count (some id) := by
  have howed : (chronicle.session.debts.map some).count (some id) = chronicle.owed id :=
    List.count_map_of_injective _ some (Option.some_injective RequestId) id
  rw [accounts, List.count_append, ← responses_eq, howed]

/-- What was due under an identifier was asked with it or rejected with it. -/
theorem count_dues_some (chronicle : Chronicle state pending) (id : RequestId) :
    chronicle.dues.count (some id) + chronicle.dropped id =
      chronicle.requests id + chronicle.rejections (some id) := by
  unfold dues dropped requests rejections
  rw [List.count_filterMap]
  have one (flag : Bool) : (if flag = true then 1 else 0) = flag.toNat := by cases flag <;> rfl
  induction chronicle.receipts with
  | nil => rfl
  | cons receipt rest ih =>
    have head := receipt.due_add_isDropped id
    simp only [List.countP_cons, one]
    omega

/-- What was due without identifier was rejected without one. -/
theorem count_dues_none (chronicle : Chronicle state pending) :
    chronicle.dues.count none = chronicle.rejections none := by
  unfold dues rejections
  rw [List.count_filterMap]
  exact List.countP_congr fun receipt _ => by rw [receipt.due_none]

/-- What an act that leaves the queue adds to the answers in it are its responses. -/
theorem responses_perform_add (act : Session.Act state) (kept : chronicle.session.leaving act = [])
    {keys : List (Option RequestId)}
    (more : (chronicle.session.perform m act).answered = chronicle.session.answered ++ keys)
    (key : Option RequestId) :
    (chronicle.perform m act).responses key = chronicle.responses key + keys.count key := by
  have hqueued : (chronicle.perform m act).queued.filterMap Outgoing.answers? =
      chronicle.queued.filterMap Outgoing.answers? ++ keys := by
    change ((chronicle.departed ++ chronicle.session.leaving act) ++ _).filterMap _ = _
    rw [kept, List.append_nil, List.filterMap_append, queued, List.filterMap_append,
      List.append_assoc]
    exact congrArg _ more
  rw [responses_eq, responses_eq, hqueued, List.count_append]

/-- Nothing is answered in an act that leaves the answers in the queue as they are. -/
theorem responses_perform (act : Session.Act state) (kept : chronicle.session.leaving act = [])
    (same : (chronicle.session.perform m act).answered = chronicle.session.answered)
    (key : Option RequestId) : (chronicle.perform m act).responses key = chronicle.responses key :=
  responses_perform_add act kept (same.trans (List.append_nil _).symm) key

/-- A notification of the client, or a response, is not answered when it is received. -/
theorem responses_receive (coherent : chronicle.session.Coherent) (world : Session.World)
    {payload : Bytes} (unanswerable : Session.Receipt.isUnanswerable payload = true)
    (key : Option RequestId) :
    (chronicle.perform m (.receive world payload)).responses key = chronicle.responses key := by
  refine responses_perform _ rfl ?_ key
  have silent := Session.Receipt.due_of_isUnanswerable unanswerable chronicle.session
  simp only [Session.perform]
  split
  · next reads =>
    obtain ⟨idle, lives⟩ := coherent.reads_eq_true_iff.mp reads
    exact (Session.handleFrame_upshot coherent lives world).answered_of_silent coherent lives
      idle silent
  · rfl

/-- An act that answers a request, and in which nothing is received, pays what is owed. -/
theorem answers_perform (coherent : chronicle.session.Coherent) (act : Session.Act state)
    (unread : chronicle.session.received act = []) (kept : chronicle.session.leaving act = [])
    {id : RequestId}
    (more : (chronicle.session.perform m act).answered = chronicle.session.answered ++ [some id])
    (lasts : (chronicle.session.perform m act).hasEnded = false) :
    chronicle.Answers (chronicle.perform m act) id := by
  have responded := responses_perform_add act kept more (some id)
  rw [List.count_singleton_self] at responded
  have balance := (accounts_perform coherent act lasts).count_eq (some id)
  rw [unread, List.filterMap_nil, List.append_nil, ← responses_add_owed, ← responses_add_owed]
    at balance
  exact ⟨responded, by omega⟩

/-- A task whose call ends in its turn, or whose parameters do not fit, is answered and goes. -/
theorem answers_work (coherent : chronicle.session.Coherent)
    (lives : chronicle.session.hasEnded = false) {task : Session.Task pending}
    (member : task ∈ chronicle.session.tasks) {outcome : Engine.Outcome}
    (ends : ∀ turn, chronicle.session.consult m task = some turn →
      turn.2.progress = .done outcome) :
    chronicle.Answers (chronicle.perform m (.work task.ticket)) task.id ∧
      (chronicle.perform m (.work task.ticket)).session.tasks =
        chronicle.session.tasks.filter fun other => other.ticket != task.ticket := by
  have leaves := coherent.leaves_runTask member ends
  have more := leaves.answered coherent member
  rw [lives, if_neg Bool.false_ne_true] at more
  exact ⟨answers_perform coherent (.work task.ticket) rfl rfl more (leaves.hasEnded.trans lives),
    leaves.tasks⟩

/-- As long as a session lasts, the message that waits goes on when it is resumed. -/
theorem continued_resume (coherent : chronicle.session.Coherent)
    (lives : chronicle.session.hasEnded = false) {turn : Session.Turn pending}
    (waits : chronicle.session.turn = some turn) :
    Session.Continued m chronicle.session turn.duty
      (m.resume turn.call none chronicle.session.bridge.engine)
      (chronicle.perform m .resume).session := by
  have goes : chronicle.session.isCancelled = false := coherent.isCancelled.trans lives
  have resumed : (chronicle.perform m .resume).session = (chronicle.session.continueTurn m
      turn.duty (m.resume turn.call none chronicle.session.bridge.engine)).2 := by
    simp only [perform, Session.perform, goes, Session.resumeTurn, waits, Bool.false_eq_true,
      if_false]
  rw [resumed]
  exact Session.continueTurn_continued coherent.onlyForwards _

/-- A notification that waits in its turn is not answered when it goes on. -/
theorem responses_resume (coherent : chronicle.session.Coherent) {turn : Session.Turn pending}
    (waits : chronicle.session.turn = some turn) (silent : turn.duty.asker? = none)
    (key : Option RequestId) :
    (chronicle.perform m .resume).responses key = chronicle.responses key := by
  refine responses_perform .resume rfl ?_ key
  cases lives : chronicle.session.hasEnded with
  | true =>
    have stopped : chronicle.session.isCancelled = true := coherent.isCancelled.trans lives
    simp only [Session.perform, stopped, if_true]
  | false =>
    exact (continued_resume coherent lives waits).answered_of_silent coherent
      (coherent.fits lives waits) silent

/-- A request that waits in its turn is answered once its call has ended. -/
theorem answers_resume (coherent : chronicle.session.Coherent)
    (lives : chronicle.session.hasEnded = false) {turn : Session.Turn pending}
    (waits : chronicle.session.turn = some turn) {id : RequestId}
    (asker : turn.duty.asker? = some id) {outcome : Engine.Outcome}
    (done : (m.resume turn.call none chronicle.session.bridge.engine).2.progress =
      .done outcome) :
    chronicle.Answers (chronicle.perform m .resume) id ∧
      (chronicle.perform m .resume).session.turn = none := by
  obtain ⟨more, idle, lasts⟩ := (continued_resume coherent lives waits).answered_of_asker coherent
    (coherent.fits lives waits) asker done
  exact ⟨answers_perform coherent .resume rfl rfl more lasts, idle⟩

end Counts

/-- The responses of every run are accounted for. -/
theorem accounted_run (m : Engine state pending) (engine : state) (config : SessionConfig)
    (acts : List (Session.Act state)) : ((start engine config).run m acts).Accounted m := by
  have coherent := coherent_run_start m engine config acts
  have balanced := accounts_run (m := m) engine config acts
  generalize (start engine config).run m acts = chronicle at coherent balanced ⊢
  refine ⟨fun lasts id => ?_, fun lasts => ?_,
    fun world payload silent => responses_receive coherent world silent,
    fun turn waits silent => responses_resume coherent waits silent,
    fun lives task member outcome ends => answers_work coherent lives member ends,
    fun task member turn call consulted waiting => ?_,
    fun lives turn id waits asker outcome done => answers_resume coherent lives waits asker done,
    fun lives turn call waits waiting => ?_,
    fun ended acts => (run_of_ended coherent ended acts).2⟩
  · have hcount := (balanced lasts).count_eq (some id)
    have hdues := chronicle.count_dues_some id
    rw [← responses_add_owed] at hcount
    omega
  · have hcount := (balanced lasts).count_eq none
    have hdues := chronicle.count_dues_none
    have hnone : (chronicle.session.debts.map some).count none = 0 :=
      List.count_eq_zero.mpr (by simp)
    rw [accounts, List.count_append, ← responses_eq, hnone] at hcount
    omega
  · have parked := coherent.parked_runTask member consulted waiting
    exact ⟨responses_perform (.work task.ticket) rfl parked.answered, parked.tasks⟩
  · obtain ⟨same, still⟩ := (continued_resume coherent lives waits).answered_of_waiting waiting
    exact ⟨responses_perform .resume rfl same, still⟩

set_option maxRecDepth 2000 in
-- Of two requests with one identifier the second one is dropped; the first one is
-- still to be answered when a third one is answered at once.
example :
    let chronicle := (start () ⟨2000, 1000⟩).run Engine.bare
      (Sample.handshake ++ [Sample.hover "1", Sample.hover "1", Sample.unrouted "1"])
    chronicle.responses (some (.number 1)) = 1 ∧ chronicle.dropped (.number 1) = 1 ∧
      chronicle.owed (.number 1) = 1 ∧ chronicle.requests (.number 1) = 3 := by
  decide +kernel

end Chronicle

end LspGateway
