import LspGateway.Proofs.Session.Acts

/-!
# Chronicles of sessions

A chronicle keeps, beside a session, what the session itself forgets: the
messages that have left its queue, and the frames that were handled together with
the session that each of them found. A run lets one act follow the other, in any
order whatsoever.
-/

namespace LspGateway

/-- A session and what has become of it so far. -/
structure Chronicle (state pending : Type) where
  /-- The session. -/
  session : Session state pending
  /-- The messages that have left the queue, in order. -/
  departed : List Outgoing
  /-- The frames that were handled, in order. -/
  receipts : List (Session.Receipt state pending)

namespace Chronicle

variable {state pending : Type}

/-- The chronicle of a session that has seen no message. -/
def start (engine : state) (config : SessionConfig) : Chronicle state pending :=
  ⟨.create engine config, [], []⟩

/-- Continues a chronicle by an act. -/
def perform (m : Engine state pending) (chronicle : Chronicle state pending)
    (act : Session.Act state) : Chronicle state pending where
  session := chronicle.session.perform m act
  departed := chronicle.departed ++ chronicle.session.leaving act
  receipts := chronicle.receipts ++ chronicle.session.received act

/-- Continues a chronicle by acts, one after the other. -/
def run (m : Engine state pending) (chronicle : Chronicle state pending)
    (acts : List (Session.Act state)) : Chronicle state pending :=
  acts.foldl (perform m) chronicle

/-- Every message that was ever queued, in order. -/
def queued (chronicle : Chronicle state pending) : List Outgoing :=
  chronicle.departed ++ chronicle.session.bridge.outbound.queued

/-! ## Runs -/

section Runs

variable {m : Engine state pending} {chronicle : Chronicle state pending}

/-- Acts that follow other acts. -/
theorem run_append (m : Engine state pending) (chronicle : Chronicle state pending)
    (first second : List (Session.Act state)) :
    chronicle.run m (first ++ second) = (chronicle.run m first).run m second :=
  List.foldl_append

/-- A run that begins with an act. -/
theorem run_cons (m : Engine state pending) (chronicle : Chronicle state pending)
    (act : Session.Act state) (acts : List (Session.Act state)) :
    chronicle.run m (act :: acts) = (chronicle.perform m act).run m acts :=
  rfl

/-- A run that ends with an act. -/
theorem run_concat (m : Engine state pending) (chronicle : Chronicle state pending)
    (acts : List (Session.Act state)) (act : Session.Act state) :
    chronicle.run m (acts ++ [act]) = (chronicle.run m acts).perform m act :=
  run_append m chronicle acts [act]

/-- The session changes by the acts alone. -/
theorem session_run (m : Engine state pending) (chronicle : Chronicle state pending)
    (acts : List (Session.Act state)) :
    (chronicle.run m acts).session = acts.foldl (Session.perform m) chronicle.session := by
  induction acts generalizing chronicle with
  | nil => rfl
  | cons act rest ih => exact ih (chronicle.perform m act)

/-- Whatever every act keeps as long as the session is coherent holds after every
run. -/
theorem run_induction (kept : Chronicle state pending → Prop)
    (step : ∀ c act, c.session.Coherent → kept c → kept (c.perform m act))
    (coherent : chronicle.session.Coherent) (start : kept chronicle)
    (acts : List (Session.Act state)) : kept (chronicle.run m acts) := by
  induction acts generalizing chronicle with
  | nil => exact start
  | cons act rest ih => exact ih (coherent.perform act) (step chronicle act coherent start)

/-- Runs keep sessions coherent. -/
theorem coherent_run (coherent : chronicle.session.Coherent) (acts : List (Session.Act state)) :
    (chronicle.run m acts).session.Coherent :=
  run_induction (fun c => c.session.Coherent) (fun _ act hc _ => hc.perform act) coherent coherent
    acts

/-- Every run of a new session leads to a coherent one. -/
theorem coherent_run_start (m : Engine state pending) (engine : state) (config : SessionConfig)
    (acts : List (Session.Act state)) : ((start engine config).run m acts).session.Coherent :=
  coherent_run (.create engine config) acts

end Runs

end Chronicle

/-! ## The queue -/

namespace Session

variable {state pending : Type} {m : Engine state pending} {session : Session state pending}

/-- Forwarded events are queued after everything else. -/
theorem Alike.queued_grows {told : Session state pending} (h : session.Alike told) :
    session.bridge.outbound.queued <+: told.bridge.outbound.queued := by
  obtain ⟨notes, hq, -⟩ := h.outbound.queued
  exact ⟨notes, hq.symm⟩

/-- What is sent is queued after everything else, if at all. -/
theorem queued_grows_send (session : Session state pending) (message : Outgoing) :
    session.bridge.outbound.queued <+: (session.send message).bridge.outbound.queued := by
  change _ <+: (session.bridge.outbound.send message).2.1.queued
  unfold Outbound.send
  split
  · exact List.prefix_rfl
  · split
    · exact List.prefix_rfl
    · exact List.prefix_append _ _

/-- The end takes nothing back. -/
theorem Coherent.queued_grows_terminate (h : session.Coherent) (ending : Ending) :
    session.bridge.outbound.queued <+: (session.terminate m ending).bridge.outbound.queued := by
  cases lives : session.hasEnded with
  | true =>
    have hsame := terminate_of_exited m session ending (by simpa [hasEnded] using lives)
    exact ⟨[], by rw [hsame, List.append_nil]⟩
  | false =>
    obtain ⟨notes, hq, -⟩ := (h.terminated m lives ending).queued
    exact ⟨notes, hq.symm⟩

/-- Going on with a message takes nothing back. -/
theorem Continued.queued_grows {duty : Duty} {answer : state × Engine.Turn pending}
    {after : Session state pending} (hc : Continued m session duty answer after)
    (h : session.Coherent) :
    session.bridge.outbound.queued <+: after.bridge.outbound.queued := by
  cases hc with
  | waits call progress alike => exact alike.queued_grows
  | @ends told after outcome progress alike concluded =>
    have first := alike.queued_grows
    cases concluded with
    | answered id said asker hlast =>
      exact (first.trans hlast.queued_grows).trans (queued_grows_send _ _)
    | seen asker stays hlast => exact first.trans hlast.queued_grows
    | left leaves hlast =>
      have lastCoherent := ((h.withEngine answer.1).withoutTurn.alike alike).alike hlast
      exact (first.trans hlast.queued_grows).trans (lastCoherent.queued_grows_terminate .exit)

/-- Going on with a task takes nothing back. -/
theorem Worked.queued_grows {ticket : Nat} {after : Session state pending}
    (hw : Worked m session ticket after) :
    session.bridge.outbound.queued <+: after.bridge.outbound.queued := by
  cases hw with
  | absent missing => exact List.prefix_rfl
  | refused task answer found consulted alike =>
    exact alike.queued_grows.trans (queued_grows_send _ _)
  | parked task turn call found consulted progress alike => exact alike.queued_grows
  | answered task turn outcome answer found consulted progress alike =>
    exact alike.queued_grows.trans (queued_grows_send _ _)

/-- Handling a message takes nothing back. -/
theorem Upshot.queued_grows {payload : Bytes} {after : Session state pending}
    (hu : Upshot m session payload after) (h : session.Coherent)
    (lives : session.hasEnded = false) (idle : session.turn = none) :
    session.bridge.outbound.queued <+: after.bridge.outbound.queued := by
  cases hu with
  | ignored due alike => exact alike.queued_grows
  | cancelled id due alike => exact alike.queued_grows
  | answered id answer due alike => exact alike.queued_grows.trans (queued_grows_send _ _)
  | enlisted id feature params decoded phase free due alike => exact alike.queued_grows
  | @asked told duty next call due starts operation alike =>
    have begun := (h.begun lives idle starts alike).1
    exact alike.queued_grows.trans ((begun.asked duty call).queued_grows begun)

/-- Messages leave the queue in the order in which they were queued, and an act
queues further ones after them. -/
theorem Coherent.queued_grows_perform (h : session.Coherent) (act : Act state) :
    session.bridge.outbound.queued <+:
      session.leaving act ++ (session.perform m act).bridge.outbound.queued := by
  have performed : Performed m session act (session.perform m act) := perform_performed h act
  generalize session.perform m act = after at performed ⊢
  cases performed with
  | quiet unread kept other alike =>
    rw [kept]
    exact alike.queued_grows
  | handled world payload lives idle hu => exact hu.queued_grows h lives idle
  | resumed turn lives waits hc => exact hc.queued_grows h
  | worked ticket hw => exact hw.queued_grows
  | stirred change => exact List.prefix_rfl
  | taken => exact List.prefix_append _ _
  | dropped closed =>
    simp only [leaving, closed, Bool.false_eq_true, if_false]
    exact List.prefix_append _ _
  | @ended act told ending turn unread kept other cut alike =>
    rw [kept]
    exact alike.queued_grows.trans (((h.cut cut).alike alike).queued_grows_terminate ending)

end Session

namespace Chronicle

variable {state pending : Type} {m : Engine state pending} {chronicle : Chronicle state pending}

/-- What was queued stays queued, in its place. -/
theorem queued_grows_run (coherent : chronicle.session.Coherent)
    (acts : List (Session.Act state)) : chronicle.queued <+: (chronicle.run m acts).queued := by
  refine run_induction (fun c => chronicle.queued <+: c.queued) (fun c act hc before => ?_)
    coherent List.prefix_rfl acts
  refine before.trans ?_
  change c.departed ++ _ <+: (c.departed ++ c.session.leaving act) ++ _
  rw [List.append_assoc]
  exact (List.prefix_append_right_inj c.departed).mpr (hc.queued_grows_perform act)

end Chronicle

/-! ## After the end -/

namespace Session

variable {state pending : Type} {m : Engine state pending} {session : Session state pending}

/-- Once the queue is closed, nothing is forwarded. -/
theorem Alike.queued_of_closed {told : Session state pending} (h : session.Alike told)
    (closed : session.bridge.outbound.isOpen = false) :
    told.bridge.outbound.queued = session.bridge.outbound.queued := by
  obtain ⟨notes, hq, -, hnone⟩ := h.outbound.queued
  rw [hq, hnone closed, List.append_nil]

/-- Once the queue is closed, nothing is sent. -/
theorem queued_send_of_closed (closed : session.bridge.outbound.isOpen = false)
    (message : Outgoing) :
    (session.send message).bridge.outbound.queued = session.bridge.outbound.queued := by
  change (session.bridge.outbound.send message).2.1.queued = _
  simp [Outbound.send, closed]

/-- A session that has ended has a closed queue. -/
theorem Coherent.closed (h : session.Coherent) (ended : session.hasEnded = true) :
    session.bridge.outbound.isOpen = false := by
  rw [h.isOpen, ended]
  rfl

/-- Sending does not change the lifecycle. -/
theorem hasEnded_send (message : Outgoing) :
    (session.send message).hasEnded = session.hasEnded := rfl

/-- What a task does in a session that has ended is of no consequence for the queue. -/
theorem Worked.of_ended {ticket : Nat} {after : Session state pending}
    (hw : Worked m session ticket after) (h : session.Coherent) (ended : session.hasEnded = true) :
    after.hasEnded = true ∧
      after.bridge.outbound.queued = session.bridge.outbound.queued := by
  -- All that happens in the end is an answer that the closed queue drops.
  have dropped {base told : Session state pending} (ha : base.Alike told)
      (hb : base.lifecycle = session.lifecycle) (ho : base.bridge.outbound = session.bridge.outbound)
      (message : Outgoing) : (told.send message).hasEnded = true ∧
      (told.send message).bridge.outbound.queued = session.bridge.outbound.queued := by
    have closed : base.bridge.outbound.isOpen = false := ho ▸ h.closed ended
    refine ⟨?_, ?_⟩
    · rw [hasEnded_send, ha.hasEnded, Session.hasEnded, hb]
      exact ended
    · rw [queued_send_of_closed (ha.outbound.isOpen.trans closed), ha.queued_of_closed closed, ho]
  cases hw with
  | absent missing => exact ⟨ended, rfl⟩
  | refused task answer found consulted alike => exact dropped alike rfl rfl _
  | parked task turn call found consulted progress alike =>
    refine ⟨alike.hasEnded.trans ended, ?_⟩
    rw [alike.queued_of_closed (h.closed ended)]
    rfl
  | answered task turn outcome answer found consulted progress alike =>
    exact dropped alike rfl rfl _

/-- After the end every act leaves the session ended, and nothing is queued. -/
theorem Coherent.perform_of_ended (h : session.Coherent) (ended : session.hasEnded = true)
    (act : Act state) : (session.perform m act).hasEnded = true ∧
      session.leaving act ++ (session.perform m act).bridge.outbound.queued =
        session.bridge.outbound.queued := by
  have performed : Performed m session act (session.perform m act) := perform_performed h act
  generalize session.perform m act = after at performed ⊢
  cases performed with
  | quiet unread kept other alike =>
    rw [kept]
    exact ⟨alike.hasEnded.trans ended, alike.queued_of_closed (h.closed ended)⟩
  | handled world payload lives idle hu => exact absurd (lives.symm.trans ended) (by simp)
  | resumed turn lives waits hc => exact absurd (lives.symm.trans ended) (by simp)
  | worked ticket hw => exact hw.of_ended h ended
  | stirred change => exact ⟨ended, rfl⟩
  | taken => exact ⟨ended, List.append_nil _⟩
  | dropped closed =>
    refine ⟨ended, ?_⟩
    simp only [leaving, closed, Bool.false_eq_true, if_false]
    exact List.append_nil _
  | @ended act told ending turn unread kept other cut alike =>
    have hexited : told.lifecycle.phase = .exited := by
      rw [alike.lifecycle]
      exact (beq_iff_eq (a := session.lifecycle.phase)).mp ended
    rw [kept, terminate_of_exited m told ending hexited]
    exact ⟨alike.hasEnded.trans ended, alike.queued_of_closed (h.closed ended)⟩

/-- A session that lasts after an act has lasted before. -/
theorem Coherent.lives_of_perform (h : session.Coherent) {act : Act state}
    (lasts : (session.perform m act).hasEnded = false) : session.hasEnded = false := by
  cases hs : session.hasEnded with
  | false => rfl
  | true => exact absurd ((h.perform_of_ended hs act).1.symm.trans lasts) (by simp)

end Session

namespace Chronicle

variable {state pending : Type} {m : Engine state pending} {chronicle : Chronicle state pending}

/-- What is queued after an act. -/
theorem queued_perform_of_ended (coherent : chronicle.session.Coherent)
    (ended : chronicle.session.hasEnded = true) (act : Session.Act state) :
    (chronicle.perform m act).queued = chronicle.queued := by
  change (chronicle.departed ++ chronicle.session.leaving act) ++ _ = chronicle.departed ++ _
  rw [List.append_assoc]
  exact congrArg (chronicle.departed ++ ·) (coherent.perform_of_ended ended act).2

/-- Nothing is queued after the end, and the end is for good. -/
theorem run_of_ended (coherent : chronicle.session.Coherent)
    (ended : chronicle.session.hasEnded = true) (acts : List (Session.Act state)) :
    (chronicle.run m acts).session.hasEnded = true ∧
      (chronicle.run m acts).queued = chronicle.queued := by
  refine run_induction (fun c => c.session.hasEnded = true ∧ c.queued = chronicle.queued) ?_
    coherent ⟨ended, rfl⟩ acts
  rintro c act hc ⟨hended, hqueued⟩
  exact ⟨(hc.perform_of_ended hended act).1,
    (queued_perform_of_ended hc hended act).trans hqueued⟩

/-- A session that lasts after a run has lasted before. -/
theorem lives_of_run (coherent : chronicle.session.Coherent) (acts : List (Session.Act state))
    (lasts : (chronicle.run m acts).session.hasEnded = false) :
    chronicle.session.hasEnded = false := by
  cases hs : chronicle.session.hasEnded with
  | false => rfl
  | true => exact absurd ((run_of_ended coherent hs acts).1.symm.trans lasts) (by simp)

end Chronicle

/-! ## Fixed inputs -/

namespace Chronicle.Sample

/-- The payload of a request. -/
def request (id method params : String) : Bytes :=
  Bytes.ofString ("\x7b\"jsonrpc\":\"2.0\",\"id\":" ++ id ++ ",\"method\":\"" ++ method ++
    "\",\"params\":" ++ params ++ "\x7d")

/-- The payload of a notification without parameters. -/
def notification (method : String) : Bytes :=
  Bytes.ofString ("\x7b\"jsonrpc\":\"2.0\",\"method\":\"" ++ method ++ "\"\x7d")

/-- A frame is received at the beginning of time, in a world without processes. -/
def receive {state : Type} (payload : Bytes) : Session.Act state :=
  .receive ⟨0, fun _ => .ok false⟩ payload

/-- The handshake. -/
def handshake {state : Type} : List (Session.Act state) :=
  [receive (request "0" "initialize" "\x7b\"capabilities\":\x7b\x7d\x7d"),
    receive (notification "initialized")]

/-- A request for the hover text. -/
def hover {state : Type} (id : String) : Session.Act state :=
  receive (request id "textDocument/hover" ("\x7b\"textDocument\":\x7b\"uri\":\"file:///a\"\x7d," ++
    "\"position\":\x7b\"line\":0,\"character\":0\x7d\x7d"))

/-- A request for what nobody offers. -/
def unrouted {state : Type} (id : String) : Session.Act state :=
  receive (request id "no/such" "null")

end Chronicle.Sample

end LspGateway
