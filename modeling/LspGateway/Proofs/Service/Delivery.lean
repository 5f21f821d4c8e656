import LspGateway.Proofs.Service.Alertness

/-!
# What is written of a session

Whatever is to go to the client is put into one queue, by the one who reads, by the requests
and by the engine, and one job takes the messages out and writes them. The stream that they
go to may take them in parts, or fail. What was written is always a beginning of the messages
that the queue has accepted, a frame for each and in their order; as long as no write fails
it is all that has left the queue, and at the end that is everything. What is left in the queue
is written in the next turn of that job, for which it waits.
-/

namespace LspGateway

/-- The bytes of messages, a frame for each. -/
def Outgoing.stream (messages : List Outgoing) : Bytes :=
  messages.flatMap fun message => Frame.encode message.encode

/-- The bytes of messages that follow others follow the bytes of those. -/
theorem Outgoing.stream_append (first second : List Outgoing) :
    stream (first ++ second) = stream first ++ stream second :=
  List.flatMap_append

/-- More messages are more bytes. -/
theorem Outgoing.stream_prefix {some all : List Outgoing} (h : some <+: all) :
    stream some <+: stream all := by
  obtain ⟨rest, rfl⟩ := h
  rw [stream_append]
  exact List.prefix_append _ _

/-! ## Writing -/

/-- What a write has made of a stream: part of the offer was taken, and all of it if that is
what is said. -/
structure Sink.Wrote {ε : Type} (sink : Sink) (offer : Bytes) (result : Sink × Except ε Unit) :
    Prop where
  /-- A beginning of the offer was taken. -/
  part : ∃ taken, taken <+: offer ∧ result.1.bytes = sink.bytes ++ taken
  /-- If all went well, all of it was. -/
  whole : result.2 = .ok () → result.1.bytes = sink.bytes ++ offer

namespace Sink.Wrote

variable {ε : Type} {sink : Sink} {first second : Bytes} {failure : ε}
  {result : Sink × Except ε Unit}

/-- Nothing was offered. -/
theorem nothing (sink : Sink) : sink.Wrote [] (sink, (.ok () : Except ε Unit)) :=
  ⟨⟨[], List.prefix_rfl, (List.append_nil _).symm⟩, fun _ => (List.append_nil _).symm⟩

/-- Nothing was taken. -/
theorem refused (sink : Sink) (offer : Bytes) (failure : ε) :
    sink.Wrote offer (sink, .error failure) :=
  ⟨⟨[], List.nil_prefix, (List.append_nil _).symm⟩, nofun⟩

/-- One offer was taken, and another one is made. -/
theorem and_then {middle : Sink} (one : sink.Wrote first (middle, (.ok () : Except ε Unit)))
    (other : middle.Wrote second result) : sink.Wrote (first ++ second) result := by
  have before : middle.bytes = sink.bytes ++ first := one.whole rfl
  obtain ⟨taken, hpart, hbytes⟩ := other.part
  refine ⟨⟨first ++ taken, (List.prefix_append_right_inj first).mpr hpart, ?_⟩, fun ok => ?_⟩
  · rw [hbytes, before, List.append_assoc]
  · rw [other.whole ok, before, List.append_assoc]

/-- One offer was not taken, and no other one is made. -/
theorem and_not {after : Sink} {other : Type} (one : sink.Wrote first (after, .error failure))
    (second : Bytes) (cause : other) : sink.Wrote (first ++ second) (after, .error cause) := by
  obtain ⟨taken, hpart, hbytes⟩ := one.part
  exact ⟨⟨taken, hpart.trans (List.prefix_append first second), hbytes⟩, nofun⟩

end Sink.Wrote

/-- Repeated writes take a beginning of the offer. -/
theorem Sink.wrote_writeLoop (fuel : Nat) (sink : Sink) (offer : Bytes) :
    sink.Wrote offer (writeLoop fuel sink offer) := by
  induction fuel generalizing sink offer with
  | zero =>
    cases offer with
    | nil => exact .nothing sink
    | cons byte rest => exact .refused sink _ full
  | succ fuel ih =>
    cases offer with
    | nil => exact .nothing sink
    | cons byte rest =>
      have both (count : Nat) : sink.Wrote (byte :: rest)
          (writeLoop fuel (sink.take count (byte :: rest)) ((byte :: rest).drop count)) := by
        have taken : (sink.take count (byte :: rest)).bytes =
            sink.bytes ++ (byte :: rest).take count := by
          simp [Sink.bytes, Sink.take]
        have first : sink.Wrote ((byte :: rest).take count)
            (sink.take count (byte :: rest), (.ok () : Except StreamFailure Unit)) :=
          ⟨⟨_, List.prefix_rfl, taken⟩, fun _ => taken⟩
        have whole := first.and_then (ih (sink.take count (byte :: rest))
          ((byte :: rest).drop count))
        rwa [List.take_append_drop] at whole
      unfold writeLoop
      split
      · exact .refused sink _ full
      · exact both _

/-- A frame is written in parts. -/
theorem Frame.wrote_write (sink : Sink) (payload : Bytes) :
    sink.Wrote (encode payload) (write sink payload) := by
  have header := Sink.wrote_writeLoop (header payload).length sink (header payload)
  unfold write encode Sink.writeAll
  generalize Sink.writeLoop (Frame.header payload).length sink (Frame.header payload) = first
    at header ⊢
  obtain ⟨middle, result⟩ := first
  cases result with
  | error failure => exact header.and_not payload (Fault.stream failure)
  | ok done =>
    have body := Sink.wrote_writeLoop payload.length middle payload
    dsimp only
    generalize Sink.writeLoop payload.length middle payload = second at body ⊢
    obtain ⟨last, result⟩ := second
    have both := header.and_then body
    cases result with
    | error failure => exact ⟨both.part, nofun⟩
    | ok done =>
      dsimp only
      split
      · exact ⟨both.part, nofun⟩
      · exact ⟨both.part, fun _ => both.whole rfl⟩

namespace Service

variable {state pending : Type}

/-- Messages are written one after the other, up to the first that cannot be. -/
theorem wrote_writeMessages (sink : Sink) (messages : List Outgoing) :
    sink.Wrote (Outgoing.stream messages) (writeMessages sink messages) := by
  induction messages generalizing sink with
  | nil => exact .nothing sink
  | cons message rest ih =>
    have first := Frame.wrote_write sink message.encode
    unfold writeMessages
    generalize Frame.write sink message.encode = written at first ⊢
    obtain ⟨middle, result⟩ := written
    cases result with
    | error fault => exact first.and_not (Outgoing.stream rest) fault
    | ok done => exact first.and_then (ih middle)

/-- What a turn of the one who writes comes to: nothing is left waiting, and all that waited is
written, unless a write fails; then the session ends, and nobody writes any more. -/
structure Flushes (m : Engine state pending) (service after : Service state pending) : Prop where
  /-- Nothing waits any more. -/
  emptied : after.session.bridge.outbound.queued = []
  /-- What waited is written. -/
  written : (writeMessages service.sink service.session.bridge.outbound.queued).2 = .ok () →
    after.sink.bytes =
      service.sink.bytes ++ Outgoing.stream service.session.bridge.outbound.queued
  /-- A write that fails ends the session and the writing. -/
  failed : ∀ fault,
    (writeMessages service.sink service.session.bridge.outbound.queued).2 = .error fault →
      after.session.hasEnded = true ∧ after.writing = .finished

/-- When writing ends, nothing waits any more; nothing is written, and the session stays as it
stands. -/
theorem ends_closeWriting (service : Service state pending) :
    service.closeWriting.session.bridge.outbound.queued = [] ∧
      service.closeWriting.session.hasEnded = service.session.hasEnded ∧
      service.closeWriting.sink.bytes = service.sink.bytes ∧
      service.closeWriting.writing = .finished := by
  obtain ⟨entries, queue, hclose⟩ := Served.closeWriting_eq service
  rw [hclose]
  exact ⟨rfl, rfl, rfl, rfl⟩

/-- The one who writes takes out all that waits. -/
theorem flushes_turn {m : Engine state pending} {service : Service state pending}
    (coherent : service.session.Coherent) (running : service.writing = .running) :
    Flushes m service (service.turn m .writing) := by
  have wrote := wrote_writeMessages service.sink service.session.bridge.outbound.queued
  have taken := coherent.perform (m := m) .take
  have runs : ¬ (service.writing != .running) = true := by simp [running]
  unfold turn turnWriting
  rw [if_neg runs]
  dsimp only [Outbound.take]
  cases hwritten : writeMessages service.sink service.session.bridge.outbound.queued with
  | mk sink result =>
    have outcome := congrArg Prod.snd hwritten
    rw [hwritten] at wrote
    let left : Service state pending :=
      { service with session := service.session.perform m .take, sink := sink }
    cases result with
    | error fault =>
      let after := (service.session.perform m .take).perform m (.outputFailed fault)
      have ended : after.hasEnded = true := taken.hasEnded_of_ends rfl
      obtain ⟨_, _, _, _, followed⟩ := follow_eq left after
      have session : (left.follow after).session = after := by rw [followed]
      obtain ⟨emptied, same, -, finished⟩ := ends_closeWriting (left.follow after)
      rw [session] at same
      change Flushes m service (left.follow after).closeWriting
      exact ⟨emptied, fun ok => (by cases outcome.symm.trans ok),
        fun _ _ => ⟨same.trans ended, finished⟩⟩
    | ok done =>
      obtain ⟨emptied, -, bytes, -⟩ := ends_closeWriting left
      dsimp only
      split
      · exact ⟨rfl, fun _ => wrote.whole rfl, fun _ failed => (by cases outcome.symm.trans failed)⟩
      · exact ⟨emptied, fun _ => bytes.trans (wrote.whole rfl),
          fun _ failed => (by cases outcome.symm.trans failed)⟩

/-! ## Deliveries -/

/-- Whether a write or a flush has failed while acts followed each other. -/
def Fails (acts : List (Session.Act state)) : Prop :=
  ∃ fault, .outputFailed fault ∈ acts

/-- What was written so far, held against what has left the queue. -/
structure Drains (sink : Sink) (service : Service state pending) (acts : List (Session.Act state))
    (chronicle : Chronicle state pending) : Prop where
  /-- The chronicle is that of the session. -/
  session : service.session = chronicle.session
  /-- What was written is a beginning of what has left the queue. -/
  part : ∃ taken, taken <+: Outgoing.stream chronicle.departed ∧
    service.sink.bytes = sink.bytes ++ taken
  /-- Without a failure it is all of it. -/
  whole : ¬ Fails acts → service.sink.bytes = sink.bytes ++ Outgoing.stream chronicle.departed
  /-- As long as somebody writes there was no failure. -/
  sound : service.writing ≠ .finished → ¬ Fails acts
  /-- When nobody writes any more, the session has ended and the queue is empty. -/
  silent : service.writing = .finished →
    service.session.hasEnded = true ∧ service.session.bridge.outbound.queued = []
  /-- Nobody writes before the beginning. -/
  absent : service.phase = .unstarted → service.writing = .absent
  /-- The service returns only when nobody writes any more. -/
  returned : ∀ outcome, service.phase = .finished outcome → service.writing = .finished

section Steps

variable {m : Engine state pending} {sink : Sink} {service after : Service state pending}
  {acts more : List (Session.Act state)} {chronicle : Chronicle state pending}

/-- Acts that follow others fail if one of them does. -/
theorem fails_append : Fails (acts ++ more) ↔ Fails acts ∨ Fails more := by
  simp only [Fails, List.mem_append, exists_or]

/-- No act whose time comes by itself takes a message out of the queue, or is a failure of
the output. -/
theorem Due.kept {act : Session.Act state} {input : Input} (due : service.Due act input) :
    service.session.leaving act = [] ∧ ¬ Fails [act] := by
  cases due <;> exact ⟨rfl, by simp [Fails]⟩

/-- What has left the queue has left it for good. -/
theorem departed_grows (m : Engine state pending) (chronicle : Chronicle state pending)
    (acts : List (Session.Act state)) : chronicle.departed <+: (chronicle.run m acts).departed := by
  induction acts generalizing chronicle with
  | nil => exact List.prefix_rfl
  | cons act rest ih => exact (List.prefix_append _ _).trans (ih (chronicle.perform m act))

/-- An act that takes nothing out of the queue. -/
theorem departed_of_leaving {act : Session.Act state}
    (kept : chronicle.session.leaving act = []) :
    (chronicle.run m [act]).departed = chronicle.departed := by
  change chronicle.departed ++ chronicle.session.leaving act = _
  rw [kept, List.append_nil]

/-- Acts in which nothing leaves the queue, and nothing is written. -/
theorem Drains.still (h : Drains sink service acts chronicle)
    (coherent : chronicle.session.Coherent)
    (session : after.session = (chronicle.run m more).session)
    (kept : (chronicle.run m more).departed = chronicle.departed) (sound : ¬ Fails more)
    (same : after.sink = service.sink) (writing : after.writing = service.writing)
    (absent : after.phase = .unstarted → service.phase = .unstarted)
    (returned : ∀ outcome, after.phase = .finished outcome → service.writing = .finished) :
    Drains sink after (acts ++ more) (chronicle.run m more) := by
  refine ⟨session, ?_, fun fine => ?_, fun open_ => ?_, fun silent => ?_, fun unstarted => ?_, ?_⟩
  · rw [kept, same]
    exact h.part
  · rw [kept, same]
    exact h.whole fun fails => fine (fails_append.mpr (.inl fails))
  · rw [writing] at open_
    exact fun fails => (fails_append.mp fails).elim (h.sound open_) sound
  · rw [writing] at silent
    obtain ⟨ended, empty⟩ := h.silent silent
    rw [h.session] at ended empty
    obtain ⟨later, queued⟩ := Chronicle.run_of_ended (m := m) coherent ended more
    rw [session]
    refine ⟨later, ?_⟩
    unfold Chronicle.queued at queued
    rw [kept, empty] at queued
    exact List.append_cancel_left queued
  · rw [writing]
    exact h.absent (absent unstarted)
  · rw [writing]
    exact returned

/-- Once nobody writes any more, the session has ended and nothing waits. -/
theorem emptied {session : Session state pending} (h : session.Coherent)
    (ended : session.hasEnded = true) (entries : List Log.Entry) :
    ([.note entries, .dropReceiver].foldl (Session.perform m) session).hasEnded = true ∧
      ([.note entries, .dropReceiver].foldl
        (Session.perform m) session).bridge.outbound.queued = [] := by
  rw [Served.foldl_dropReceiver h ended]
  exact ⟨ended, rfl⟩

/-- Every step keeps what was written in agreement with what has left the queue. -/
theorem Drains.step (h : Drains sink service acts chronicle)
    (coherent : chronicle.session.Coherent) (step : Step m service more after) :
    Drains sink after (acts ++ more) (chronicle.run m more) := by
  have session : after.session = (chronicle.run m more).session := by
    rw [step.session, h.session, Chronicle.session_run]
  -- Somebody who writes has offered all that has left the queue.
  have offered (running : service.writing = .running) : ¬ Fails acts ∧
      service.sink.bytes = sink.bytes ++ Outgoing.stream chronicle.departed := by
    have sound := h.sound (by simp [running])
    exact ⟨sound, h.whole sound⟩
  have begun (running : service.writing = .running) : service.phase ≠ .unstarted := fun unstarted =>
    absurd (running.symm.trans (h.absent unstarted)) (by simp)
  have lasts (running : service.writing = .running) (outcome : Session.Outcome) :
      service.phase ≠ .finished outcome := fun returned =>
    absurd (running.symm.trans (h.returned outcome returned)) (by simp)
  cases step with
  | aside aside =>
    obtain ⟨-, phase, writing, same⟩ := aside.same
    exact h.still coherent session rfl (by simp [Fails]) same writing phase.symm.trans
      fun outcome returned => h.returned outcome (phase.symm.trans returned)
  | begun unstarted =>
    have sound : ¬ Fails acts := h.sound (by simp [h.absent unstarted])
    have running : Drains sink { service with phase := .reading, writing := .running } acts
        chronicle := ⟨h.session, h.part, h.whole, fun _ => sound, nofun, nofun, nofun⟩
    exact running.still coherent session (departed_of_leaving rfl) (by simp [Fails]) rfl rfl nofun
      nofun
  | acted act input due =>
    obtain ⟨kept, sound⟩ := due.kept
    rw [h.session] at kept
    exact h.still coherent session (departed_of_leaving kept) sound rfl rfl id h.returned
  | wrote taken running written =>
    obtain ⟨sound, bytes⟩ := offered running
    have wrote := wrote_writeMessages service.sink service.session.bridge.outbound.queued
    rw [written] at wrote
    have all : taken.bytes =
        sink.bytes ++ Outgoing.stream (chronicle.run m [.take]).departed := by
      rw [wrote.whole rfl, bytes, h.session, List.append_assoc, ← Outgoing.stream_append]
      rfl
    refine ⟨session, ⟨_, List.prefix_rfl, all⟩, fun _ => all, fun _ => ?_, fun silent => ?_,
      fun unstarted => absurd unstarted (begun running),
      fun outcome returned => absurd returned (lasts running outcome)⟩
    · rw [fails_append]
      simpa [Fails] using sound
    · exact absurd (running.symm.trans silent) (by simp)
  | failed taken fault entries running written =>
    obtain ⟨-, bytes⟩ := offered running
    have wrote := wrote_writeMessages service.sink service.session.bridge.outbound.queued
    rw [written] at wrote
    obtain ⟨part, hpart, hbytes⟩ := wrote.part
    have coherent' : service.session.Coherent := h.session ▸ coherent
    have before := (coherent'.perform (m := m) .take).perform (m := m) (.outputFailed fault)
    have ended : ((service.session.perform m .take).perform m (.outputFailed fault)).hasEnded =
        true := (coherent'.perform (m := m) .take).hasEnded_of_ends rfl
    refine ⟨session, ⟨Outgoing.stream chronicle.departed ++ part, ?_, ?_⟩, fun fine => ?_,
      fun open_ => absurd rfl open_, fun _ => ?_,
      fun unstarted => absurd unstarted (begun running), fun _ _ => rfl⟩
    · refine List.IsPrefix.trans ?_ (Outgoing.stream_prefix
        (departed_grows m (chronicle.perform m .take) [.outputFailed fault, .note entries,
          .dropReceiver]))
      change _ <+: Outgoing.stream (chronicle.departed ++ chronicle.session.bridge.outbound.queued)
      rw [← h.session, Outgoing.stream_append]
      exact (List.prefix_append_right_inj _).mpr hpart
    · rw [← List.append_assoc, ← bytes]
      exact hbytes
    · exact absurd (fails_append.mpr (.inr ⟨fault, by simp⟩)) fine
    · exact emptied before ended entries
  | drained entries running ended empty =>
    obtain ⟨sound, bytes⟩ := offered running
    have coherent' : service.session.Coherent := h.session ▸ coherent
    have none : (chronicle.run m [.note entries, .dropReceiver]).departed = chronicle.departed := by
      change (chronicle.departed ++ []) ++ (if chronicle.session.bridge.outbound.isOpen then []
        else chronicle.session.bridge.outbound.queued) = _
      rw [← h.session, empty, ite_self, List.append_nil, List.append_nil]
    have all : service.sink.bytes = sink.bytes ++
        Outgoing.stream (chronicle.run m [.note entries, .dropReceiver]).departed := by
      rw [none, bytes]
    refine ⟨session, ⟨_, List.prefix_rfl, all⟩, fun _ => all, fun open_ => absurd rfl open_,
      fun _ => emptied coherent' ended entries, fun unstarted => absurd unstarted (begun running),
      fun _ _ => rfl⟩
  | closed reading ended =>
    exact h.still coherent session (departed_of_leaving rfl) (by simp [Fails]) rfl rfl nofun nofun
  | finished closing done =>
    exact h.still coherent session (departed_of_leaving rfl) (by simp [Fails]) rfl rfl nofun
      fun _ _ => done
  | abandoned lasts =>
    exact h.still coherent session (departed_of_leaving rfl) (by simp [Fails]) rfl rfl nofun nofun

/-- Whatever steps are taken, what was written agrees with what has left the queue. -/
theorem Drains.leads {start : Service state pending} (h : Drains sink start [] chronicle)
    (coherent : chronicle.session.Coherent) (leads : Leads m start acts service) :
    Drains sink service acts (chronicle.run m acts) := by
  induction leads with
  | refl => exact h
  | step leads step ih =>
    rw [Chronicle.run_append]
    exact ih.step (Chronicle.coherent_run coherent _) step

/-- Once nobody writes any more, nothing is written. -/
theorem Drains.step_of_silent (h : Drains sink service acts chronicle)
    (silent : service.writing = .finished) (step : Step m service more after) :
    after.writing = .finished ∧ after.sink.bytes = service.sink.bytes := by
  have idle (running : service.writing = .running) :
      after.writing = .finished ∧ after.sink.bytes = service.sink.bytes :=
    absurd (running.symm.trans silent) (by simp)
  cases step with
  | aside aside =>
    obtain ⟨-, -, writing, same⟩ := aside.same
    exact ⟨writing.trans silent, congrArg Sink.bytes same⟩
  | begun unstarted => exact absurd ((h.absent unstarted).symm.trans silent) (by simp)
  | wrote taken running written => exact idle running
  | failed taken fault entries running written => exact idle running
  | drained entries running ended empty => exact idle running
  | acted act input due => exact ⟨silent, rfl⟩
  | closed reading ended => exact ⟨silent, rfl⟩
  | finished closing done => exact ⟨silent, rfl⟩
  | abandoned lasts => exact ⟨silent, rfl⟩

/-- Once nobody writes any more, nothing is written, whatever steps are taken. -/
theorem Drains.leads_of_silent {start : Service state pending}
    (h : Drains sink start acts chronicle) (coherent : chronicle.session.Coherent)
    (silent : start.writing = .finished) (leads : Leads m start more service) :
    Drains sink service (acts ++ more) (chronicle.run m more) ∧
      service.writing = .finished ∧ service.sink.bytes = start.sink.bytes := by
  induction leads with
  | refl =>
    rw [List.append_nil]
    exact ⟨h, silent, rfl⟩
  | step leads step ih =>
    obtain ⟨before, still, same⟩ := ih
    obtain ⟨after, bytes⟩ := before.step_of_silent still step
    rw [Chronicle.run_append, ← List.append_assoc]
    exact ⟨before.step (Chronicle.coherent_run coherent _) step, after, bytes.trans same⟩

/-- A write that fails ends the session, whatever comes later, and is the reason if there was
none before. -/
theorem ending_of_outputFailed (coherent : chronicle.session.Coherent) (fault : Frame.Fault)
    (later : List (Session.Act state)) :
    (chronicle.run m (.outputFailed fault :: later)).session.hasEnded = true ∧
      (chronicle.session.hasEnded = false →
        (chronicle.run m (.outputFailed fault :: later)).session.lifecycle.ending =
          some .transportFailed) := by
  have ended : (chronicle.perform m (.outputFailed fault)).session.hasEnded = true :=
    coherent.hasEnded_of_ends rfl
  have after := coherent.perform (m := m) (.outputFailed fault)
  rw [Chronicle.run_cons]
  refine ⟨(Chronicle.run_of_ended after ended later).1, fun lives => ?_⟩
  rw [Chronicle.lifecycle_run_of_ended after ended later]
  exact (coherent.prompted_perform lives (.outputFailed fault)).ending

end Steps

/-- What the client of a service is sent, held against the messages that the queue of its
session has accepted while acts followed each other. -/
structure Delivered (m : Engine state pending) (sink : Sink) (origin : Chronicle state pending)
    (acts : List (Session.Act state)) (service : Service state pending) : Prop where
  /-- The acts have led to the session. -/
  session : service.session = (origin.run m acts).session
  /-- What was accepted first stays first. -/
  order : ∀ earlier later, acts = earlier ++ later →
    (origin.run m earlier).queued <+: (origin.run m acts).queued
  /-- What was written is a beginning of what was accepted. -/
  part : ∃ written, written <+: Outgoing.stream (origin.run m acts).queued ∧
    service.sink.bytes = sink.bytes ++ written
  /-- As long as no write fails, nothing is missing but what waits in the queue. -/
  whole : ¬ Fails acts →
    service.sink.bytes ++ Outgoing.stream service.session.bridge.outbound.queued =
      sink.bytes ++ Outgoing.stream (origin.run m acts).queued
  /-- When the service returns, the session has ended, and nothing is missing unless a write
  has failed. -/
  returned : ∀ outcome, service.phase = .finished outcome → service.session.hasEnded = true ∧
    (¬ Fails acts → service.sink.bytes = sink.bytes ++ Outgoing.stream (origin.run m acts).queued)
  /-- A failure ends the session, and is the reason if there was none before. -/
  failed : ∀ earlier fault later, acts = earlier ++ .outputFailed fault :: later →
    service.session.hasEnded = true ∧
      ((origin.run m earlier).session.hasEnded = false →
        service.session.lifecycle.ending = some .transportFailed)
  /-- As long as somebody writes, a turn is enough to write all that waits, or to fail. -/
  progress : service.writing = .running → Flushes m service (service.turn m .writing)
  /-- That turn comes: while anything waits, or once the queue is closed, the one who writes is
  among the jobs that wait for their turns. -/
  alert : service.Alert
  /-- After a failure nothing is written any more. -/
  silent : Fails acts → ∀ later, (service.moves m later).sink.bytes = service.sink.bytes
  /-- After the end no message is accepted any more. -/
  closed : service.session.hasEnded = true →
    (∀ message, (service.session.bridge.outbound.send message).1 = false) ∧
      ∀ more, (origin.run m (acts ++ more)).queued = (origin.run m acts).queued

/-- Whatever moves a service makes, its client is sent what the queue has accepted. The acts
of its session are those of the steps that it has taken. -/
theorem delivered_moves (m : Engine state pending) (engine : state) (config : SessionConfig)
    (sink : Sink) (probe : Nat → Except Supervisor.ProbeError Bool) (made : List (Move state)) :
    ∃ acts, Leads m (create engine config sink probe) acts
        ((create engine config sink probe).moves m made) ∧
      Delivered m sink (.start engine config) acts
        ((create engine config sink probe).moves m made) := by
  have served := served_moves m engine config sink probe made
  have nobody : (create engine config sink probe : Service state pending).writing ≠ .running := by
    simp [create]
  have alert := (Alert.of_not_running nobody).moves (m := m) made
  generalize (create engine config sink probe).moves m made = service at served alert ⊢
  obtain ⟨acts, leads⟩ := served.leads
  refine ⟨acts, leads, ?_⟩
  let origin : Chronicle state pending := .start engine config
  have fresh : origin.session.Coherent := .create engine config
  have nothing : Drains sink (create engine config sink probe) [] origin :=
    ⟨rfl, ⟨[], List.prefix_rfl, (List.append_nil _).symm⟩, fun _ => (List.append_nil _).symm,
      fun _ => by simp [Fails], nofun, fun _ => rfl, nofun⟩
  have drains : Drains sink service acts (origin.run m acts) := nothing.leads fresh leads
  have coherent : (origin.run m acts).session.Coherent := Chronicle.coherent_run fresh acts
  refine ⟨drains.session, ?_, ?_, fun fine => ?_, fun outcome returned => ?_, ?_,
    flushes_turn served.coherent, alert, ?_, fun ended => ?_⟩
  · rintro earlier later rfl
    rw [Chronicle.run_append]
    exact Chronicle.queued_grows_run (Chronicle.coherent_run fresh earlier) later
  · obtain ⟨written, hpart, hbytes⟩ := drains.part
    exact ⟨written, hpart.trans (Outgoing.stream_prefix (List.prefix_append _ _)), hbytes⟩
  · rw [drains.whole fine, List.append_assoc, ← Outgoing.stream_append, drains.session]
    rfl
  · obtain ⟨ended, empty⟩ := drains.silent (drains.returned outcome returned)
    refine ⟨ended, fun fine => ?_⟩
    rw [drains.session] at empty
    rw [drains.whole fine, Chronicle.queued, empty, List.append_nil]
  · rintro earlier fault later rfl
    rw [drains.session, Chronicle.run_append]
    exact ending_of_outputFailed (Chronicle.coherent_run fresh earlier) fault later
  · intro fails later
    have silent : service.writing = .finished := by
      by_contra open_
      exact drains.sound open_ fails
    obtain ⟨more, further⟩ := (served.renew.moves later).leads
    exact (drains.leads_of_silent coherent silent further).2.2
  · rw [drains.session] at ended ⊢
    refine ⟨fun message => ?_, fun more => ?_⟩
    · simp [Outbound.send, coherent.closed ended]
    · rw [Chronicle.run_append]
      exact (Chronicle.run_of_ended coherent ended more).2

end Service

end LspGateway
