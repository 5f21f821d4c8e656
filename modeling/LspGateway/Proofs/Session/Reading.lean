import LspGateway.Proofs.Engine.Documents
import LspGateway.Proofs.Session.Completion
import LspGateway.Proofs.Session.Ending

/-!
# Reads observe earlier writes

Notifications are handled in the order of their arrival, one before the next frame is looked
at, while requests for features are put aside and answered later. Over the placeholder engine,
which never waits, this makes a request for the hover text read its document as it is after
all notifications that were handled until the request is answered: those that came before the
request, and perhaps some that came after it.
-/

namespace LspGateway

namespace Session

variable {state pending : Type}

/-! ## What the engine comes to -/

/-- What the engine comes to in an act, if it is asked in it. -/
def consults? (m : Engine state pending) (session : Session state pending) :
    Act state → Option (state × Engine.Turn pending)
  | .receive _ payload =>
    if session.reads then
      (session.summons? payload).map fun (_, call) => m.begin call none session.bridge.engine
    else none
  | .resume =>
    if session.isCancelled then none
    else session.turn.map fun turn => m.resume turn.call none session.bridge.engine
  | .work ticket => (session.task? ticket).bind (session.consult m)
  | _ => none

section Steps

variable {m : Engine state pending} {session after : Session state pending}

/-- Going on with a message leaves the engine as it has come to be. -/
theorem Continued.engine {duty : Duty} {answer : state × Engine.Turn pending}
    (hc : Continued m session duty answer after) (lasts : after.hasEnded = false) :
    after.bridge.engine = answer.1 := by
  cases hc with
  | waits call progress alike => exact alike.engine
  | @ends told after outcome progress alike concluded =>
    have same : told.bridge.engine = answer.1 := alike.engine
    rw [← same]
    cases concluded with
    | answered id said asker hlast => exact hlast.engine
    | seen asker stays hlast => exact hlast.engine
    | left leaves hlast => exact absurd ((ended_terminate m _ .exit).symm.trans lasts) (by simp)

/-- Going on with a task leaves the engine as it has come to be, or as it was. -/
theorem Worked.engine {ticket : Nat} (hw : Worked m session ticket after) :
    after.bridge.engine =
      ((session.consults? m (.work ticket)).map Prod.fst).getD session.bridge.engine := by
  unfold consults?
  dsimp only
  cases hw with
  | absent missing =>
    rw [missing]
    rfl
  | refused task answer found consulted alike =>
    rw [found, Option.bind_some, consulted]
    exact alike.engine
  | parked task turn call found consulted progress alike =>
    rw [found, Option.bind_some, consulted]
    exact alike.engine
  | answered task turn outcome answer found consulted progress alike =>
    rw [found, Option.bind_some, consulted]
    exact alike.engine

/-- Acts in which the engine is not asked leave it alone, as long as the session lasts. -/
theorem Performed.engine {act : Act state} (performed : Performed m session act after)
    (unread : ∀ world payload, act ≠ .receive world payload) (fresh : act ≠ .resume)
    (other : ∀ ticket, act ≠ .work ticket) (own : ∀ change, act ≠ .stir change)
    (lasts : after.hasEnded = false) : after.bridge.engine = session.bridge.engine := by
  cases performed with
  | quiet unread' kept other' alike => exact alike.engine
  | handled world payload lives idle upshot => exact absurd rfl (unread world payload)
  | resumed turn lives waits continued => exact absurd rfl fresh
  | worked ticket worked => exact absurd rfl (other ticket)
  | stirred change => exact absurd rfl (own change)
  | taken => rfl
  | dropped closed => rfl
  | ended ending turn unread' kept other' cut alike =>
    exact absurd ((ended_terminate m _ ending).symm.trans lasts) (by simp)

/-- As long as a session lasts, and as long as the engine does nothing of its own accord, the
engine changes only when it is asked. -/
theorem Coherent.engine_perform (h : session.Coherent) (act : Act state)
    (own : ∀ change, act ≠ .stir change) (lasts : (session.perform m act).hasEnded = false) :
    (session.perform m act).bridge.engine =
      ((session.consults? m act).map Prod.fst).getD session.bridge.engine := by
  have lives := h.lives_of_perform lasts
  cases act with
  | receive world payload =>
    simp only [Session.perform, consults?] at lasts ⊢
    split
    · next reads =>
      rw [if_pos reads] at lasts
      have idle := (h.reads_eq_true_iff.mp reads).1
      have heard : Heard m world session payload (session.handleFrame m world payload).2 :=
        handleFrame_heard h lives
      generalize (session.handleFrame m world payload).2 = after at heard lasts ⊢
      cases heard with
      | unheard silent unmoved =>
        rw [silent]
        exact unmoved.engine
      | @asked told duty next call summons starts alike still =>
        have attended := alike.trans (.attend told world (session.named? payload))
        have begun := (h.begun lives idle starts attended).1
        rw [summons, (begun.asked duty call).engine lasts, attended.engine]
        rfl
    · rfl
  | resume =>
    simp only [Session.perform, consults?, resumeTurn] at lasts ⊢
    split
    · rfl
    · next goes =>
      rw [if_neg goes] at lasts
      cases waits : session.turn with
      | none => rfl
      | some turn =>
        rw [waits] at lasts
        have continued : Continued m session turn.duty
            (m.resume turn.call none session.bridge.engine) _ :=
          continueTurn_continued h.onlyForwards _
        exact continued.engine lasts
  | work ticket => exact (runTask_worked h.onlyForwards ticket).engine
  | stir change => exact absurd rfl (own change)
  | _ => exact (perform_performed h _).engine (by simp) (by simp) (by simp) (by simp) lasts

end Steps

/-! ## Notifications about documents -/

/-- The notification about documents that a frame is, if it was received in the phase for
it. -/
def Receipt.notice? (receipt : Receipt state pending) : Option (Engine.Notice × Json) :=
  match Incoming.decode receipt.payload with
  | .ok (.notification method params) =>
    match MethodTable.standard.route? method, receipt.found.lifecycle.phase with
    | some (.notice notice), .initialized => some (notice, params)
    | _, _ => none
  | _ => none

/-- What a notification makes of the document of a URI; nothing, if its parameters do not
fit. -/
def follow (uri : String) (document : Option Engine.Document) (notice : Engine.Notice × Json) :
    Option Engine.Document :=
  match Dispatch.decode (.notice notice.1) notice.2 with
  | .ok call => Engine.Placeholder.revise uri document call
  | .error _ => document

/-- Whether a notification is about the document of a URI, and its parameters fit. -/
def concerns (uri : String) (notice : Engine.Notice × Json) : Bool :=
  match Dispatch.decode (.notice notice.1) notice.2 with
  | .ok call => Engine.Placeholder.uriOf call.params == uri
  | .error _ => false

/-- The others make nothing of it. -/
theorem foldl_follow_filter (uri : String) (document : Option Engine.Document)
    (notices : List (Engine.Notice × Json)) :
    (notices.filter (concerns uri)).foldl (follow uri) document =
      notices.foldl (follow uri) document := by
  induction notices generalizing document with
  | nil => rfl
  | cons notice rest ih =>
    cases about : concerns uri notice with
    | true =>
      rw [List.filter_cons_of_pos about]
      exact ih (follow uri document notice)
    | false =>
      have same : follow uri document notice = document := by
        unfold concerns at about
        unfold follow
        split
        · next call decoded =>
          rw [decoded] at about
          exact if_neg (beq_eq_false_iff_ne.mp about)
        · rfl
      rw [List.filter_cons_of_neg (by simp [about]), List.foldl_cons, same]
      exact ih document

/-- What a frame asks the engine for revises a document as the notification does that the
frame is. -/
theorem follow_notice? (session : Session state pending) (payload : Bytes) (uri : String)
    (document : Option Engine.Document) :
    (Receipt.notice? ⟨session, payload⟩).toList.foldl (follow uri) document =
      ((session.summons? payload).map fun (_, call) =>
        Engine.Placeholder.revise uri document call).getD document := by
  have unnoticed (call : Engine.Call) (other : ∀ notice, call.operation ≠ .notice notice) :
      Engine.Placeholder.revise uri document call = document :=
    Engine.Placeholder.revise_of_unnoticed uri document other
  unfold Receipt.notice? summons?
  cases Incoming.decode payload with
  | error rejection => rfl
  | ok incoming =>
    cases incoming with
    | response id result error => rfl
    | request id method params =>
      dsimp only
      split
      · cases decoded : Dispatch.decode .opening params with
        | error error => rfl
        | ok call =>
          have opens := operation_of_decode decoded
          exact (unnoticed call fun notice same => absurd (opens.symm.trans same) nofun).symm
      · exact (unnoticed ⟨.shutdown, .null⟩ nofun).symm
      · rfl
    | notification method params =>
      dsimp only
      split
      · next notice routed phase =>
        rw [routed, phase]
        dsimp only
        change follow uri document (notice, params) = _
        unfold follow
        cases Dispatch.decode (.notice notice) params <;> rfl
      · next others =>
        split
        · exact (unnoticed ⟨.confirmation, .ofPairs []⟩ nofun).symm
        · exact (unnoticed ⟨.exit, .null⟩ nofun).symm
        · next notice routed phase => exact absurd phase (others notice routed)
        · rfl

/-- The document of a URI after an act over the placeholder engine is what the notification
makes of it that is handled in the act. -/
theorem Coherent.get?_perform {session : Session Engine.Documents Empty} (h : session.Coherent)
    (act : Act Engine.Documents) (own : ∀ change, act ≠ .stir change)
    (lasts : (session.perform Engine.placeholder act).hasEnded = false) (uri : String) :
    (session.perform Engine.placeholder act).bridge.engine.get? uri =
      ((session.received act).filterMap Receipt.notice?).foldl (follow uri)
        (session.bridge.engine.get? uri) := by
  rw [h.engine_perform act own lasts]
  cases act with
  | receive world payload =>
    unfold consults? received
    dsimp only
    cases session.reads with
    | false => rfl
    | true =>
      simp only [if_true]
      have followed := follow_notice? session payload uri (session.bridge.engine.get? uri)
      have single : [(⟨session, payload⟩ : Receipt Engine.Documents Empty)].filterMap
          Receipt.notice? = (Receipt.notice? ⟨session, payload⟩).toList := by
        cases hnotice : Receipt.notice? ⟨session, payload⟩ <;> simp [hnotice]
      rw [single, followed]
      cases session.summons? payload with
      | none => rfl
      | some summons =>
        obtain ⟨duty, call⟩ := summons
        exact Engine.Placeholder.get?_begin call none session.bridge.engine uri
  | resume =>
    unfold consults?
    dsimp only
    cases session.turn with
    | none => rw [Option.map_none, ite_self]; rfl
    | some turn => exact turn.call.elim
  | work ticket =>
    unfold consults? consult
    dsimp only
    cases session.task? ticket with
    | none => rfl
    | some task =>
      rw [Option.bind_some]
      cases task.stage with
      | waiting call => exact call.elim
      | spawned params =>
        dsimp only
        cases decoded : Dispatch.decode (.feature task.feature) params with
        | error error => rfl
        | ok call =>
          have asked := operation_of_decode decoded
          refine (Engine.Placeholder.get?_begin call _ session.bridge.engine uri).trans ?_
          refine Engine.Placeholder.revise_of_unnoticed uri _ fun notice same => ?_
          exact absurd (asked.symm.trans same) nofun
  | _ => rfl

/-! ## The request behind a task -/

/-- One task is another one later on. -/
structure Task.Becomes (old task : Task pending) : Prop where
  /-- It keeps its number. -/
  ticket : task.ticket = old.ticket
  /-- And the identifier of its request. -/
  id : task.id = old.id
  /-- And what is asked for. -/
  feature : task.feature = old.feature
  /-- It is where it was, or it waits for the engine. -/
  stage : task.stage = old.stage ∨ ∃ call, task.stage = .waiting call

/-- The request behind a task, received in the phase for it. -/
structure Task.Requested (found : Session state pending) (payload : Bytes) (params : Json)
    (task : Task pending) : Prop where
  /-- The frame was handled. -/
  reads : found.reads = true
  /-- In the phase for requests. -/
  phase : found.lifecycle.phase = .initialized
  /-- It holds the request. -/
  decoded : Incoming.decode payload = .ok (.request task.id task.feature.method params)
  /-- The task has the number that was next. -/
  ticket : task.ticket = found.nextTicket

/-- A task that stays. -/
theorem Task.Becomes.refl (task : Task pending) : task.Becomes task :=
  ⟨rfl, rfl, rfl, .inl rfl⟩

section Steps

variable {m : Engine state pending} {session : Session state pending}

/-- Only frames bring tasks. -/
theorem Passage.becomes {act : Act state} {after : Session state pending}
    (passage : session.Passage act after) (unread : ∀ world payload, act ≠ .receive world payload)
    {task : Task pending} (member : task ∈ after.tasks) :
    ∃ old ∈ session.tasks, old.Becomes task := by
  cases passage with
  | same tasks idle => exact ⟨task, tasks ▸ member, .refl task⟩
  | came world payload id feature params decoded free tasks =>
    exact absurd rfl (unread world payload)
  | waits parked among call tasks silent =>
    rw [tasks] at member
    obtain ⟨old, before, rfl⟩ := List.mem_map.mp member
    split
    · exact ⟨parked, among, rfl, rfl, rfl, .inr ⟨call, rfl⟩⟩
    · exact ⟨old, before, .refl old⟩
  | left gone among answer leaves =>
    rw [leaves.tasks] at member
    exact ⟨task, (List.mem_filter.mp member).1, .refl task⟩

/-- A frame that is handled brings the task of its request, if it brings one. -/
theorem Coherent.origin_handleFrame (h : session.Coherent) (reads : session.reads = true)
    (world : World) (payload : Bytes) {task : Task pending}
    (member : task ∈ (session.handleFrame m world payload).2.tasks) :
    (∃ old ∈ session.tasks, old.Becomes task) ∨
      ∃ params, task.stage = .spawned params ∧ task.Requested session payload params := by
  obtain ⟨idle, lives⟩ := h.reads_eq_true_iff.mp reads
  have upshot : Upshot m session payload (session.handleFrame m world payload).2 :=
    handleFrame_upshot h lives world
  generalize (session.handleFrame m world payload).2 = after at upshot member
  have kept (same : after.tasks = session.tasks) : ∃ old ∈ session.tasks, old.Becomes task :=
    ⟨task, same ▸ member, .refl task⟩
  cases upshot with
  | ignored due alike => exact .inl (kept alike.tasks)
  | cancelled id due alike => exact .inl (kept alike.tasks)
  | answered id answer due alike => exact .inl (kept alike.tasks)
  | enlisted id feature params decoded phase free due alike =>
    rw [alike.tasks] at member
    rcases List.mem_append.mp member with old | new
    · exact .inl ⟨task, old, .refl task⟩
    · obtain rfl := List.mem_singleton.mp new
      exact .inr ⟨params, rfl, reads, phase, decoded, rfl⟩
  | @asked told duty next call due starts operation alike =>
    have begun := (h.begun lives idle starts alike).1
    exact .inl (kept ((begun.asked duty call).tasks.1.trans alike.tasks))

/-- A task after an act is an earlier one, or that of the request that was handled in the
act. -/
theorem Coherent.origin_perform (h : session.Coherent) (act : Act state) {task : Task pending}
    (member : task ∈ (session.perform m act).tasks) :
    (∃ old ∈ session.tasks, old.Becomes task) ∨
      ∃ world payload params, act = .receive world payload ∧ task.stage = .spawned params ∧
        task.Requested session payload params := by
  cases act with
  | receive world payload =>
    simp only [Session.perform] at member
    split at member
    · next reads =>
      refine (h.origin_handleFrame reads world payload member).imp_right ?_
      rintro ⟨params, stage, requested⟩
      exact ⟨world, payload, params, rfl, stage, requested⟩
    · exact .inl ⟨task, member, .refl task⟩
  | _ => exact .inl ((h.passage _).becomes (by simp) member)

end Steps

end Session

/-! ## Runs -/

namespace Chronicle

variable {state pending : Type} {m : Engine state pending} {chronicle : Chronicle state pending}

/-- The frames that were handled stay so, in order. -/
theorem receipts_grow_run (m : Engine state pending) (chronicle : Chronicle state pending)
    (acts : List (Session.Act state)) :
    chronicle.receipts <+: (chronicle.run m acts).receipts := by
  induction acts generalizing chronicle with
  | nil => exact List.prefix_rfl
  | cons act rest ih => exact (List.prefix_append _ _).trans (ih (chronicle.perform m act))

/-- The notifications about documents that were received in the phase for them, in order. -/
def notices (chronicle : Chronicle state pending) : List (Engine.Notice × Json) :=
  chronicle.receipts.filterMap Session.Receipt.notice?

/-- They stay so. -/
theorem notices_grow_run (m : Engine state pending) (chronicle : Chronicle state pending)
    (acts : List (Session.Act state)) : chronicle.notices <+: (chronicle.run m acts).notices :=
  (receipts_grow_run m chronicle acts).filterMap _

/-- Behind every task there is a request that was received in the phase for it. -/
theorem origin_run (engine : state) (config : SessionConfig) (acts : List (Session.Act state))
    {task : Session.Task pending}
    (member : task ∈ ((start engine config).run m acts).session.tasks) :
    ∃ earlier world payload later params, acts = earlier ++ .receive world payload :: later ∧
      (task.stage = .spawned params ∨ ∃ call, task.stage = .waiting call) ∧
      task.Requested ((start engine config).run m earlier).session payload params := by
  induction acts using List.reverseRecOn generalizing task with
  | nil => exact absurd member List.not_mem_nil
  | append_singleton acts act ih =>
    rw [run_concat] at member
    have coherent := coherent_run_start m engine config acts
    rcases coherent.origin_perform act member with ⟨old, among, becomes⟩ | new
    · obtain ⟨earlier, world, payload, later, params, rfl, stage, requested⟩ := ih among
      refine ⟨earlier, world, payload, later ++ [act], params, by simp, ?_,
        requested.reads, requested.phase, ?_, becomes.ticket.trans requested.ticket⟩
      · rcases becomes.stage with same | waits
        · exact same ▸ stage
        · exact .inr waits
      · rw [becomes.id, becomes.feature]
        exact requested.decoded
    · obtain ⟨world, payload, params, rfl, stage, requested⟩ := new
      exact ⟨acts, world, payload, [], params, rfl, .inl stage, requested⟩

/-- Where no call of the engine can wait, every task ends in its next turn. -/
theorem ends_of_empty (m : Engine state Empty) (session : Session state Empty)
    (task : Session.Task Empty) : ∃ outcome, ∀ turn, session.consult m task = some turn →
      turn.2.progress = .done outcome := by
  cases session.consult m task with
  | none => exact ⟨.result .null, nofun⟩
  | some turn =>
    cases progress : turn.2.progress with
    | done outcome => exact ⟨outcome, fun _ same => Option.some.inj same ▸ progress⟩
    | waiting call => exact call.elim

/-- As long as a session over the placeholder engine lasts, the document of a URI is what the
notifications about documents have made of it that were received in the phase for them. -/
theorem get?_run (documents : Engine.Documents) (config : SessionConfig)
    (acts : List (Session.Act Engine.Documents)) (own : ∀ change, .stir change ∉ acts)
    (lasts : ((start documents config).run Engine.placeholder acts).session.hasEnded = false)
    (uri : String) :
    ((start documents config).run Engine.placeholder acts).session.bridge.engine.get? uri =
      ((start documents config).run Engine.placeholder acts).notices.foldl (Session.follow uri)
        (documents.get? uri) := by
  induction acts using List.reverseRecOn with
  | nil => rfl
  | append_singleton acts act ih =>
    rw [run_concat] at lasts ⊢
    have coherent := coherent_run_start Engine.placeholder documents config acts
    have before := ih (fun change member => own change (List.mem_append_left _ member))
      (coherent.lives_of_perform lasts)
    have quiet : ∀ change, act ≠ .stir change := fun change same =>
      own change (same ▸ List.mem_append_right acts List.mem_cons_self)
    refine (coherent.get?_perform act quiet lasts uri).trans ?_
    rw [before, ← List.foldl_append]
    unfold notices
    rw [← List.filterMap_append]
    rfl

/-- A task that is answered with a result is answered while the session lasts. -/
theorem lives_of_answered {session : Session state pending} (h : session.Coherent)
    {ticket : Nat} {message : Outgoing}
    (answered : (session.perform m (.work ticket)).replies = session.replies ++ [message]) :
    session.hasEnded = false := by
  cases ended : session.hasEnded with
  | false => rfl
  | true =>
    have same : (session.perform m (.work ticket)).bridge.outbound.queued =
        session.bridge.outbound.queued :=
      (h.perform_of_ended (m := m) ended (.work ticket)).2
    unfold Session.replies at answered
    rw [same] at answered
    have lengths := congrArg List.length answered
    simp at lengths

/-- Reads observe earlier writes. In every run over the placeholder engine, a request for the
hover text that is answered with a result was received in the phase for requests, and the
result describes the document of its URI as some of the first notifications make it that are
received in the phase for them, one after the other: all of those that were handled before the
request, and perhaps some of those after it. Of these only the ones about the document itself
count, provided that their parameters fit; whatever else happens does not show. -/
theorem hover_reads_writes (documents : Engine.Documents) (config : SessionConfig)
    (acts rest : List (Session.Act Engine.Documents)) (own : ∀ change, .stir change ∉ acts)
    (task : Session.Task Empty) (value : Json)
    (member : task ∈ ((start documents config).run Engine.placeholder acts).session.tasks)
    (hover : task.feature = .hover)
    (answered :
      (((start documents config).run Engine.placeholder acts).session.perform Engine.placeholder
        (.work task.ticket)).replies =
      ((start documents config).run Engine.placeholder acts).session.replies ++
        [.response (some task.id) (.result value)]) :
    ∃ earlier world payload later params call, acts = earlier ++ .receive world payload :: later ∧
      task.Requested ((start documents config).run Engine.placeholder earlier).session payload
        params ∧
      Dispatch.decode (.feature .hover) params = .ok call ∧
      ∃ seen, ((start documents config).run Engine.placeholder earlier).notices <+: seen ∧
        seen <+: ((start documents config).run Engine.placeholder
          (acts ++ .work task.ticket :: rest)).notices ∧
        let uri := Engine.Placeholder.uriOf call.params
        value = Engine.Placeholder.describe
          ((seen.filter (Session.concerns uri)).foldl (Session.follow uri)
            (documents.get? uri)) := by
  have coherent := coherent_run_start Engine.placeholder documents config acts
  have lives := lives_of_answered coherent answered
  obtain ⟨earlier, world, payload, later, params, hacts, stage, requested⟩ :=
    origin_run documents config acts member
  have stage : task.stage = .spawned params := by
    rcases stage with spawned | ⟨call, -⟩
    · exact spawned
    · exact call.elim
  obtain ⟨outcome, ends⟩ := ends_of_empty Engine.placeholder
    ((start documents config).run Engine.placeholder acts).session task
  have answer : task.answer outcome = .result value := by
    have replies := (coherent.leaves_runTask member ends).replies coherent lives member
    have same := List.append_cancel_left (replies.symm.trans answered)
    simpa using same
  unfold Session.Task.answer at answer
  rw [stage] at answer
  cases decoded : Dispatch.decode (.feature task.feature) params with
  | error error => simp [decoded] at answer
  | ok call =>
    simp only [decoded] at answer
    have progress := ends (Engine.placeholder.begin call _ _) (by
      simp only [Session.consult, stage, decoded]
      rfl)
    have result : outcome = .result value := by
      cases outcome with
      | result found => exact congrArg _ (Answer.result.inj answer)
      | failed error => exact absurd answer (by simp [Engine.Outcome.answer])
      | broke reason => exact absurd answer (by simp [Engine.Outcome.answer])
    have operation : call.operation = .feature .hover :=
      (Session.operation_of_decode decoded).trans (congrArg _ hover)
    have described := Engine.Placeholder.value_of_hover operation (result ▸ progress)
    rw [get?_run documents config acts own lives, ← Session.foldl_follow_filter] at described
    refine ⟨earlier, world, payload, later, params, call, hacts, requested, hover ▸ decoded, _,
      ?_, ?_, described⟩
    · rw [hacts, run_append]
      exact notices_grow_run Engine.placeholder _ _
    · rw [run_append]
      exact notices_grow_run Engine.placeholder _ _

/-! ## Fixed inputs -/

namespace Sample

/-- A notification about a document. -/
def tell (method params : String) : Session.Act Engine.Documents :=
  receive (Bytes.ofString ("\x7b\"jsonrpc\":\"2.0\",\"method\":\"" ++ method ++
    "\",\"params\":" ++ params ++ "\x7d"))

/-- A client opens a document, asks for the hover text, and changes the document. -/
def edited : List (Session.Act Engine.Documents) :=
  handshake ++
    [tell "textDocument/didOpen" ("\x7b\"textDocument\":\x7b\"uri\":\"file:///a\"," ++
      "\"languageId\":\"text\",\"version\":1,\"text\":\"one\"\x7d\x7d"),
    hover "1",
    tell "textDocument/didChange" ("\x7b\"textDocument\":\x7b\"uri\":\"file:///a\"," ++
      "\"version\":2\x7d,\"contentChanges\":[\x7b\"text\":\"one two\"\x7d]\x7d")]

/-- Whether a message is a response with a result. -/
def answers : Option Outgoing → Bool
  | some (.response _ (.result _)) => true
  | _ => false

/-- The session in which the hover text has still to be found. -/
def asking : Session Engine.Documents Empty :=
  ((start .empty ⟨2000, 1000⟩).run Engine.placeholder edited).session

end Sample

set_option maxRecDepth 2000 in
/-- The hover text of a document that is opened before the request and changed after it. -/
theorem hover_reads_writes_of_edited : ∃ task ∈ Sample.asking.tasks, ∃ value,
    (Sample.asking.perform Engine.placeholder (.work task.ticket)).replies =
      Sample.asking.replies ++ [.response (some task.id) (.result value)] ∧
    ∃ earlier world payload later params call,
      Sample.edited = earlier ++ .receive world payload :: later ∧
      task.Requested ((start .empty ⟨2000, 1000⟩).run Engine.placeholder earlier).session payload
        params ∧
      Dispatch.decode (.feature .hover) params = .ok call ∧
      ∃ seen, ((start .empty ⟨2000, 1000⟩ : Chronicle _ Empty).run Engine.placeholder
          earlier).notices <+: seen ∧
        seen <+: ((start .empty ⟨2000, 1000⟩).run Engine.placeholder
          (Sample.edited ++ [.work task.ticket])).notices ∧
        let uri := Engine.Placeholder.uriOf call.params
        value = Engine.Placeholder.describe
          ((seen.filter (Session.concerns uri)).foldl (Session.follow uri)
            (Engine.Documents.empty.get? uri)) := by
  have facts : (Sample.asking.hasEnded = false ∧
      Sample.asking.tasks.map (fun task => (task.ticket, task.feature)) = [(0, .hover)]) ∧
      Sample.answers (Sample.asking.perform Engine.placeholder (.work 0)).replies.getLast? =
        true := by
    decide +kernel
  obtain ⟨⟨lives, tasks⟩, shape⟩ := facts
  obtain ⟨task, single⟩ : ∃ task, Sample.asking.tasks = [task] :=
    List.length_eq_one_iff.mp (by simpa using congrArg List.length tasks)
  rw [single] at tasks
  simp only [List.map_cons, List.map_nil, List.cons.injEq, Prod.mk.injEq, and_true] at tasks
  obtain ⟨ticket, hover⟩ := tasks
  have member : task ∈ Sample.asking.tasks := single ▸ List.mem_cons_self
  have coherent := coherent_run_start Engine.placeholder .empty ⟨2000, 1000⟩ Sample.edited
  obtain ⟨outcome, ends⟩ := ends_of_empty Engine.placeholder Sample.asking task
  have replies : (Sample.asking.perform Engine.placeholder (.work task.ticket)).replies =
      Sample.asking.replies ++ [.response (some task.id) (task.answer outcome)] :=
    (coherent.leaves_runTask member ends).replies coherent lives member
  rw [← ticket, replies, List.getLast?_concat] at shape
  cases answer : task.answer outcome with
  | error error =>
    rw [answer] at shape
    exact absurd shape (by simp [Sample.answers])
  | result value =>
    rw [answer] at replies
    refine ⟨task, member, value, replies, ?_⟩
    refine hover_reads_writes .empty ⟨2000, 1000⟩ Sample.edited [] ?_ task value member hover
      replies
    simp [Sample.edited, Sample.handshake, Sample.receive, Sample.tell, Sample.hover]

end Chronicle

end LspGateway
