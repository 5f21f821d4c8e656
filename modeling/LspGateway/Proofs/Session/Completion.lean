import LspGateway.Proofs.Session.Registration

/-!
# The order in which requests are completed

Several requests may be outstanding when the engine comes to an end with them, in whatever
order. Each is answered by what the engine has come to in it, and nothing else that is queued
as a response depends on the others; so another order queues the same responses in another
order, and leaves the session where the first has left it.
-/

namespace LspGateway

/-! ## Requests that end one after the other -/

namespace Registry

/-- The registry without the entry of a request, whose handle has one holder less. -/
def closed (registry : Registry) (id : RequestId) (number : Nat) : Registry :=
  { registry with
    handles := registry.handles.modify number fun h => { h with holders := h.holders - 1 }
    entries := without registry.entries id }

/-- It makes no difference which of two requests ends first. -/
theorem closed_comm (registry : Registry) (first second : RequestId) (one two : Nat) :
    (registry.closed first one).closed second two =
      (registry.closed second two).closed first one := by
  have entries : without (without registry.entries first) second =
      without (without registry.entries second) first := by
    unfold without
    rw [List.filter_filter, List.filter_filter]
    exact List.filter_congr fun _ _ => Bool.and_comm _ _
  have handles (less : Handle → Handle) :
      (registry.handles.modify one less).modify two less =
        (registry.handles.modify two less).modify one less := by
    by_cases same : one = two
    · rw [same]
    · exact List.modify_modify_ne less less registry.handles same
  unfold closed
  dsimp only
  rw [entries, handles]

/-- A request that ends changes no cancellation. -/
theorem isCancelled_closed (registry : Registry) (id : RequestId) (number other : Nat) :
    (registry.closed id number).isCancelled other = registry.isCancelled other := by
  have same : (registry.closed id number).standing = registry.standing := by
    change (registry.modify number fun h => { h with holders := h.holders - 1 }).standing = _
    exact standing_modify fun _ => ⟨rfl, rfl⟩
  rw [isCancelled_eq_standing, same, isCancelled_eq_standing]

end Registry

/-! ## Answers -/

/-- The answer that the outcome of a call becomes: the result, or the code and the message of
the error; a call that broke off is an internal error. -/
def Engine.Outcome.answer (method : String) : Engine.Outcome → Answer
  | .result value => .result value
  | .failed error =>
    .error (.ofCode (Dispatch.Error.engine method error).code
      (Dispatch.Error.engine method error).message)
  | .broke _ => .error (.ofCode .internalError (Dispatch.Error.crashed method).message)

namespace Session

variable {state pending : Type} {m : Engine state pending} {session : Session state pending}

/-- The answer to the request of a task, once the engine has come to an outcome. Parameters that
do not fit are answered without the engine. -/
def Task.answer (task : Task pending) (outcome : Engine.Outcome) : Answer :=
  match task.stage with
  | .spawned params =>
    match Dispatch.decode (.feature task.feature) params with
    | .error error => .error (.ofCode error.code error.message)
    | .ok _ => outcome.answer task.feature.method
  | .waiting _ => outcome.answer task.feature.method

/-- A result is answered by itself, and an error by its code and its message. -/
theorem reply_ok_or_error (session : Session state pending) (id : RequestId) (method : String)
    (result : Except Dispatch.Error Json) :
    ∃ told, session.Alike told ∧ session.reply id method result =
      told.send (.response (some id) (match result with
        | .ok value => .result value
        | .error error => .error (.ofCode error.code error.message))) := by
  cases result with
  | ok value => exact ⟨session, .refl session, rfl⟩
  | error error => exact ⟨_, .report session _, rfl⟩

/-- A task whose call has ended is answered by the outcome. -/
theorem leaves_continueTask (h : session.bridge.OnlyForwards) (task : Task pending)
    {turn : state × Engine.Turn pending} {outcome : Engine.Outcome}
    (done : turn.2.progress = .done outcome) :
    session.Leaves task (outcome.answer task.feature.method) (session.continueTask m task turn) := by
  have forwards : (session.withEngine turn.1).bridge.OnlyForwards := h
  have told := Alike.publish m forwards turn.2.events
  unfold continueTask
  dsimp only
  rw [done]
  dsimp only
  rw [finish_eq]
  obtain ⟨last, alike, replied⟩ := reply_ok_or_error _ task.id task.feature.method
    (Dispatch.conclude task.feature.method outcome)
  rw [replied]
  refine ⟨turn.1, last, ((told.trans (.report _ _)).retire task).trans alike, ?_⟩
  cases outcome <;> rfl

/-- A task whose call ends in its next turn is answered by the outcome, or by the fault of its
parameters. -/
theorem Coherent.leaves_runTask (h : session.Coherent) {task : Task pending}
    (member : task ∈ session.tasks) {outcome : Engine.Outcome}
    (ends : ∀ turn, session.consult m task = some turn → turn.2.progress = .done outcome) :
    session.Leaves task (task.answer outcome) (session.runTask m task.ticket) := by
  unfold runTask
  rw [h.task?_of_mem member]
  dsimp only
  unfold Task.answer
  cases stage : task.stage with
  | spawned params =>
    cases decoded : Dispatch.decode (.feature task.feature) params with
    | error error =>
      dsimp only
      rw [decoded]
      dsimp only
      rw [finish_eq]
      obtain ⟨last, alike, replied⟩ := reply_ok_or_error (session.retire task) task.id
        task.feature.method (.error error)
      exact ⟨session.bridge.engine, last, alike, replied⟩
    | ok call =>
      dsimp only
      rw [decoded]
      refine leaves_continueTask h.onlyForwards task (ends _ ?_)
      simp [consult, stage, decoded, Except.toOption]
  | waiting call =>
    refine leaves_continueTask h.onlyForwards task (ends _ ?_)
    simp [consult, stage]

/-- A task whose call the engine leaves waiting stays with that call. -/
theorem Coherent.parked_runTask (h : session.Coherent) {task : Task pending}
    (member : task ∈ session.tasks) {turn : state × Engine.Turn pending} {call : pending}
    (consulted : session.consult m task = some turn) (waits : turn.2.progress = .waiting call) :
    ((session.withEngine turn.1).park task call).Alike (session.runTask m task.ticket) := by
  have here := h.task?_of_mem member
  have worked : Worked m session task.ticket (session.runTask m task.ticket) :=
    runTask_worked h.onlyForwards task.ticket
  generalize session.runTask m task.ticket = after at worked ⊢
  cases worked with
  | absent missing => cases here.symm.trans missing
  | refused other answer found unasked alike =>
    cases here.symm.trans found
    cases consulted.symm.trans unasked
  | parked other spoken last found asked progress alike =>
    cases here.symm.trans found
    cases consulted.symm.trans asked
    cases waits.symm.trans progress
    exact alike
  | answered other spoken outcome answer found asked progress alike =>
    cases here.symm.trans found
    cases consulted.symm.trans asked
    cases waits.symm.trans progress

/-! ## Responses -/

/-- The responses in the queue, in order. -/
def replies (session : Session state pending) : List Outgoing :=
  session.bridge.outbound.queued.filter Outgoing.isResponse

/-- Forwarded events are no responses. -/
theorem Alike.replies {told : Session state pending} (h : session.Alike told) :
    told.replies = session.replies := by
  obtain ⟨notes, queued, kinds, -⟩ := h.outbound.queued
  have none : notes.filter Outgoing.isResponse = [] :=
    List.filter_eq_nil_iff.mpr fun note member => by simp [kinds note member]
  unfold Session.replies
  rw [queued, List.filter_append, none, List.append_nil]

/-- A response that is sent is queued after the others, as long as the session lasts. -/
theorem Coherent.replies_send (h : session.Coherent) (lives : session.hasEnded = false)
    (id : Option RequestId) (answer : Answer) :
    (session.send (.response id answer)).replies =
      session.replies ++ [.response id answer] := by
  unfold Session.replies
  rw [h.queued_send lives, List.filter_append]
  rfl

/-- The end is no response. -/
theorem Coherent.replies_terminate (h : session.Coherent) (ending : Ending) :
    (session.terminate m ending).replies = session.replies := by
  cases lives : session.hasEnded with
  | true => rw [terminate_of_exited m session ending (by simpa [hasEnded] using lives)]
  | false =>
    obtain ⟨notes, queued, kinds⟩ := (h.terminated m lives ending).queued
    have none : notes.filter Outgoing.isResponse = [] :=
      List.filter_eq_nil_iff.mpr fun note member => by simp [kinds note member]
    unfold Session.replies
    rw [queued, List.filter_append, none, List.append_nil]

/-- The response of a task that goes is queued after the others, as long as the session
lasts. -/
theorem Leaves.replies {task : Task pending} {answer : Answer} {after : Session state pending}
    (leaves : session.Leaves task answer after) (h : session.Coherent)
    (lives : session.hasEnded = false) (member : task ∈ session.tasks) :
    after.replies = session.replies ++ [.response (some task.id) answer] := by
  obtain ⟨engine, told, alike, rfl⟩ := leaves
  have coherent : told.Coherent := ((h.withEngine engine).retire member).alike alike
  have lasts : told.hasEnded = false := alike.hasEnded.trans lives
  rw [coherent.replies_send lasts]
  exact congrArg (· ++ _) alike.replies

/-- A task that goes does not change the lifecycle. -/
theorem Leaves.lifecycle {task : Task pending} {answer : Answer} {after : Session state pending}
    (leaves : session.Leaves task answer after) : after.lifecycle = session.lifecycle := by
  obtain ⟨engine, told, alike, rfl⟩ := leaves
  exact alike.lifecycle

end Session

namespace Chronicle

variable {state pending : Type} {m : Engine state pending}

/-- The calls of tasks end, one in each turn, and come to what is assigned to their requests. -/
def Ends (m : Engine state pending) (assigned : RequestId → Engine.Outcome) :
    Session state pending → List (Session.Task pending) → Prop
  | _, [] => True
  | session, task :: rest =>
    (∀ turn, session.consult m task = some turn →
      turn.2.progress = .done (assigned task.id)) ∧
      Ends m assigned (session.runTask m task.ticket) rest

/-- The turns in which tasks are completed. -/
def turns (tasks : List (Session.Task pending)) : List (Session.Act state) :=
  tasks.map fun task => .work task.ticket

/-- The response to the request of a task. -/
def response (assigned : RequestId → Engine.Outcome) (task : Session.Task pending) : Outgoing :=
  .response (some task.id) (task.answer (assigned task.id))

/-- Tasks have been completed in an order. -/
structure Completed (assigned : RequestId → Engine.Outcome) (before : Session state pending)
    (tasks : List (Session.Task pending)) (after : Session state pending) : Prop where
  /-- Each was answered by its own outcome. -/
  replies : after.replies = before.replies ++ tasks.map (response assigned)
  /-- The lifecycle is as before. -/
  lifecycle : after.lifecycle = before.lifecycle
  /-- Their requests have left the registry. -/
  registry : after.registry =
    tasks.foldl (fun registry task => registry.closed task.id task.handle) before.registry
  /-- The other tasks are as before. -/
  tasks : after.tasks =
    before.tasks.filter fun other => !tasks.any fun task => task.ticket == other.ticket

/-- Tasks that end in an order are completed in it. -/
theorem completed_run {chronicle : Chronicle state pending} (coherent : chronicle.session.Coherent)
    (lives : chronicle.session.hasEnded = false) {assigned : RequestId → Engine.Outcome}
    {tasks : List (Session.Task pending)} (members : ∀ task ∈ tasks, task ∈ chronicle.session.tasks)
    (distinct : tasks.Nodup) (ends : Ends m assigned chronicle.session tasks) :
    Completed assigned chronicle.session tasks (chronicle.run m (turns tasks)).session := by
  induction tasks generalizing chronicle with
  | nil => exact ⟨(List.append_nil _).symm, rfl, rfl, by simp [turns, run]⟩
  | cons task rest ih =>
    obtain ⟨fresh, others⟩ := List.nodup_cons.mp distinct
    have member := members task List.mem_cons_self
    have leaves : chronicle.session.Leaves task (task.answer (assigned task.id))
        (chronicle.perform m (.work task.ticket)).session :=
      coherent.leaves_runTask member ends.1
    have tasks := leaves.tasks
    have remain : ∀ other ∈ rest,
        other ∈ (chronicle.perform m (.work task.ticket)).session.tasks := by
      intro other among
      rw [tasks]
      refine List.mem_filter.mpr ⟨members other (List.mem_cons_of_mem task among), ?_⟩
      have hne : other.ticket ≠ task.ticket := fun same => by
        rw [coherent.agreement.eq_of_ticket (members other (List.mem_cons_of_mem task among)) member
          same] at among
        exact fresh among
      simpa using hne
    have completed := ih (coherent.perform (.work task.ticket)) (leaves.hasEnded.trans lives) remain
      others ends.2
    have live := coherent.agreement.live_of_mem member
    have closed : (chronicle.perform m (.work task.ticket)).session.registry =
        chronicle.session.registry.closed task.id task.handle :=
      leaves.registry.trans (Registry.ended_of_live coherent.agreement.sound live)
    refine ⟨?_, completed.lifecycle.trans leaves.lifecycle, ?_, ?_⟩
    · refine completed.replies.trans ?_
      rw [leaves.replies coherent lives member, List.append_assoc]
      rfl
    · refine completed.registry.trans ?_
      rw [closed]
      rfl
    · refine completed.tasks.trans ?_
      rw [tasks, List.filter_filter]
      refine List.filter_congr fun other _ => ?_
      rw [List.any_cons, Bool.not_or, Bool.and_comm, bne, BEq.comm (a := other.ticket)]

/-- Another order has changed nothing but the order of the responses. -/
structure Permuted (assigned : RequestId → Engine.Outcome) (before : Session state pending)
    (first second : List (Session.Task pending)) (one other : Session state pending) : Prop where
  /-- In the one order each was answered by its own outcome. -/
  first : Completed assigned before first one
  /-- And in the other. -/
  second : Completed assigned before second other
  /-- The responses are the same but for their order. -/
  replies : one.replies.Perm other.replies
  /-- The lifecycle is the same. -/
  lifecycle : one.lifecycle = other.lifecycle
  /-- The registry is the same. -/
  registry : one.registry = other.registry
  /-- The tasks that are left are the same. -/
  tasks : one.tasks = other.tasks
  /-- No request has been cancelled. -/
  cancelled : ∀ number,
    one.registry.isCancelled number = before.registry.isCancelled number

/-- Whatever ends leaves the cancellations as they are. -/
theorem isCancelled_foldl_closed (tasks : List (Session.Task pending)) (registry : Registry)
    (number : Nat) :
    (tasks.foldl (fun registry task => registry.closed task.id task.handle)
      registry).isCancelled number = registry.isCancelled number := by
  induction tasks generalizing registry with
  | nil => rfl
  | cons task rest ih => rw [List.foldl_cons, ih, Registry.isCancelled_closed]

/-- Whatever order of the same tasks they are completed in, the same responses are queued, each
with the outcome of its own request, and the session is left alike. -/
theorem completions_permute (m : Engine state pending) (engine : state) (config : SessionConfig)
    (acts : List (Session.Act state)) (assigned : RequestId → Engine.Outcome)
    (first second : List (Session.Task pending))
    (lives : ((start engine config).run m acts).session.hasEnded = false)
    (members : ∀ task ∈ first, task ∈ ((start engine config).run m acts).session.tasks)
    (distinct : first.Nodup) (perm : first.Perm second)
    (endsFirst : Ends m assigned ((start engine config).run m acts).session first)
    (endsSecond : Ends m assigned ((start engine config).run m acts).session second) :
    Permuted assigned ((start engine config).run m acts).session first second
      (((start engine config).run m acts).run m (turns first)).session
      (((start engine config).run m acts).run m (turns second)).session := by
  have coherent := coherent_run_start m engine config acts
  have one := completed_run coherent lives members distinct endsFirst
  have other := completed_run coherent lives
    (fun task member => members task (perm.mem_iff.mpr member)) (perm.nodup_iff.mp distinct)
    endsSecond
  refine ⟨one, other, ?_, one.lifecycle.trans other.lifecycle.symm, ?_, ?_, fun number => ?_⟩
  · rw [one.replies, other.replies]
    exact (perm.map _).append_left _
  · rw [one.registry, other.registry]
    exact perm.foldl_eq' (fun x _ y _ registry => registry.closed_comm x.id y.id x.handle y.handle) _
  · rw [one.tasks, other.tasks]
    refine List.filter_congr fun task _ => ?_
    rw [perm.any_eq]
  · rw [one.registry, isCancelled_foldl_closed]

/-! ## Fixed inputs -/

namespace Sample

/-- How calls end: the hover text is found, and the search for a definition breaks off. -/
def fate : Engine.Operation → Engine.Outcome
  | .feature .hover => .result .null
  | .feature .definition => .broke none
  | other => Engine.defaultOutcome other

/-- An engine that ends every call at once. -/
def brittle : Engine Unit Empty where
  begin := fun call _ _ => ((), .ended (fate call.operation))
  resume := fun pending => pending.elim
  dispose := fun _ => ((), [])

/-- A request for the definition. -/
def definition {state : Type} (id : String) : Session.Act state :=
  receive (request id "textDocument/definition"
    ("\x7b\"textDocument\":\x7b\"uri\":\"file:///a\"\x7d," ++
      "\"position\":\x7b\"line\":0,\"character\":0\x7d\x7d"))

/-- Two requests that have no answer yet. -/
def both : Chronicle Unit Empty :=
  (start () ⟨2000, 1000⟩).run brittle (handshake ++ [hover "1", definition "2"])

/-- What the requests come to. -/
def outcomes : RequestId → Engine.Outcome
  | .number 1 => .result .null
  | _ => .broke none

/-- Calls of the engine end as they are fated to. -/
theorem ends_brittle {tasks : List (Session.Task Empty)} (session : Session Unit Empty)
    (fated : ∀ task ∈ tasks, outcomes task.id = fate (.feature task.feature)) :
    Ends brittle outcomes session tasks := by
  induction tasks generalizing session with
  | nil => trivial
  | cons task rest ih =>
    refine ⟨fun turn consulted => ?_,
      ih _ fun other among => fated other (List.mem_cons_of_mem _ among)⟩
    rw [fated task List.mem_cons_self]
    cases stage : task.stage with
    | waiting call => exact call.elim
    | spawned params =>
      simp only [Session.consult, stage] at consulted
      obtain ⟨call, decoded, rfl⟩ := Option.map_eq_some_iff.mp consulted
      cases fits : Dispatch.decode (.feature task.feature) params with
      | error error =>
        rw [fits] at decoded
        exact absurd decoded (by simp [Except.toOption])
      | ok found =>
        rw [fits] at decoded
        obtain rfl : found = call := Option.some.inj decoded
        rw [← Session.operation_of_decode fits]
        rfl

end Sample

set_option maxRecDepth 2000 in
/-- The hover text and the definition, completed in either order. -/
theorem completions_permute_hover_definition :
    Sample.both.session.hasEnded = false ∧
      Sample.both.session.tasks.map Session.Task.id = [.number 1, .number 2] ∧
      Permuted Sample.outcomes Sample.both.session Sample.both.session.tasks
        Sample.both.session.tasks.reverse
        (Sample.both.run Sample.brittle (turns Sample.both.session.tasks)).session
        (Sample.both.run Sample.brittle (turns Sample.both.session.tasks.reverse)).session := by
  have facts : Sample.both.session.hasEnded = false ∧
      Sample.both.session.tasks.map (fun task => (task.id, task.feature)) =
        [(.number 1, .hover), (.number 2, .definition)] := by
    decide +kernel
  obtain ⟨lives, requests⟩ := facts
  have fated : ∀ task ∈ Sample.both.session.tasks,
      Sample.outcomes task.id = Sample.fate (.feature task.feature) := by
    intro task member
    have listed := List.mem_map_of_mem (f := fun task => (task.id, task.feature)) member
    rw [requests] at listed
    simp only [List.mem_cons, List.not_mem_nil, or_false, Prod.mk.injEq] at listed
    rcases listed with ⟨id, feature⟩ | ⟨id, feature⟩
    · rw [id, feature]
      rfl
    · rw [id, feature]
      rfl
  refine ⟨lives, ?_, completions_permute Sample.brittle () ⟨2000, 1000⟩
    (Sample.handshake ++ [Sample.hover "1", Sample.definition "2"]) Sample.outcomes
    Sample.both.session.tasks Sample.both.session.tasks.reverse lives (fun _ member => member) ?_
    (List.reverse_perm _).symm (Sample.ends_brittle _ fated)
    (Sample.ends_brittle _ fun task member => fated task (List.mem_reverse.mp member))⟩
  · have ids := congrArg (List.map Prod.fst) requests
    rwa [List.map_map] at ids
  · have coherent := coherent_run_start Sample.brittle () ⟨2000, 1000⟩
      (Sample.handshake ++ [Sample.hover "1", Sample.definition "2"])
    exact coherent.agreement.tickets.of_map

end Chronicle

end LspGateway
