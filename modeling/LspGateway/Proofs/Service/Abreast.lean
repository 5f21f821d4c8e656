import LspGateway.Proofs.Service.Approach
import LspGateway.Proofs.Service.Deafness

/-!
# Reading in front of two inputs

Two services differ in their inputs alone, and both inputs hold the same bytes up to the exit.
Then the one who reads handles the same messages in front of either, and as soon as the session
is at the exit or has ended, it does not look at them any more. Nor does it ever rest for want
of input once all bytes up to the exit have arrived.
-/

namespace LspGateway.Service

variable {state pending : Type}

/-! ## Sessions that depart -/

section Sessions

variable {m : Engine state pending} {service after : Service state pending}
  {acts : List (Session.Act state)}

/-- What every act keeps holds after steps if it held before. -/
theorem Leads.keeps {holds : Session state pending → Prop} (leads : Leads m service acts after)
    (h : service.session.Coherent)
    (kept : ∀ session act, session.Coherent → holds session → holds (session.perform m act))
    (before : holds service.session) : holds after.session := by
  rw [leads.session]
  clear leads
  generalize service.session = session at h before ⊢
  induction acts generalizing session with
  | nil => exact before
  | cons act rest ih => exact ih _ (h.perform act) (kept session act h before)

/-- A session that departs goes on doing so. -/
theorem Leads.departs (leads : Leads m service acts after) (h : service.session.Coherent)
    (departs : service.session.Departs) : after.session.Departs :=
  leads.keeps h (fun _ act coherent before => coherent.departs_perform before act) departs

/-- An end is for good. -/
theorem Leads.hasEnded (leads : Leads m service acts after) (h : service.session.Coherent)
    (ended : service.session.hasEnded = true) : after.session.hasEnded = true :=
  leads.keeps h (fun _ act coherent before => (coherent.perform_of_ended before act).1) ended

/-- The settings stay as they are. -/
theorem Leads.config (leads : Leads m service acts after) (h : service.session.Coherent) :
    after.session.config = service.session.config :=
  leads.keeps h (fun _ act coherent before => (coherent.config_perform act).trans before) rfl

/-- After the end no frame is handled. -/
theorem Leads.unread (leads : Leads m service acts after) (h : service.session.Coherent)
    (ended : service.session.hasEnded = true) (world : Session.World) (payload : Bytes) :
    .receive world payload ∉ acts := by
  induction leads with
  | refl => exact List.not_mem_nil
  | @step before more middle last leads step ih =>
    have coherent : middle.session.Coherent := by
      rw [leads.session]
      exact coherent_foldl h before
    have gone : middle.session.hasEnded = true := leads.hasEnded h ended
    -- A frame is received only while the session lasts.
    rw [List.mem_append, not_or]
    refine ⟨ih, fun received => ?_⟩
    cases step with
    | acted act input due =>
      obtain rfl := List.mem_singleton.mp received
      cases due with
      | received fields other left reading reads read =>
        exact absurd ((coherent.reads_eq_true_iff.mp reads).2.symm.trans gone) (by simp)
    | _ => simp at received

/-- The end of a service does not undo that of its session. -/
theorem hasEnded_finish (service : Service state pending) :
    service.finish.session.hasEnded = service.session.hasEnded := by
  unfold finish
  split <;> rfl

/-- After reading no more, the session has ended. -/
theorem hasEnded_close (m : Engine state pending) (service : Service state pending) :
    (service.close m).session.hasEnded = true := by
  obtain ⟨queue, waiting, cancellable, listening, hfollow⟩ :=
    follow_eq service ({ service.session with turn := none }.terminate m .transportClosed)
  unfold close
  dsimp only
  rw [hasEnded_finish, hfollow]
  exact Session.ended_terminate m _ _

/-- A session that departs after a message does so once what became of it was taken up. -/
theorem departs_settleMessage (service : Service state pending)
    {result : Session.Flow × Session state pending} (departs : result.2.Departs) :
    (service.settleMessage m result).2.session.Departs := by
  have followed : (service.follow result.2).session = result.2 := by
    obtain ⟨queue, waiting, cancellable, listening, hfollow⟩ := follow_eq service result.2
    rw [hfollow]
  unfold settleMessage
  dsimp only
  split
  · exact .inl (hasEnded_close m (service.follow result.2))
  · change (service.follow result.2).session.Departs
    rw [followed]
    exact departs

end Sessions

/-! ## Messages in front of two inputs -/

/-- The session departs, or a message is at the engine: the reader does not wait for input. -/
def Busy (session : Session state pending) : Prop :=
  session.Departs ∨ session.turn.isSome = true

/-- The session departs, or both inputs hold the same bytes up to the exit, and once all of
these have arrived, they are at most so many. -/
def Heads (coming : Bytes) (most : Nat) (session : Session state pending)
    (input other : Input) : Prop :=
  session.Departs ∨ ∃ bytes, ReachesExit session.config.frameLimit bytes ∧
    (coming = [] → bytes.length ≤ most) ∧ input.Holds coming bytes ∧ other.Holds coming bytes

/-- What a message comes to in front of two inputs, and whether to go on to the next one. -/
structure Paired (coming : Bytes) (most : Nat) (result other : Bool × Service state pending) :
    Prop where
  /-- It comes to the same. -/
  same : other = (result.1, result.2.withInput other.2.input)
  /-- Even the inputs are the same as long as bytes up to the exit are to come. -/
  equal : coming ≠ [] → other = result
  /-- Both inputs still hold the way to the exit. -/
  heads : Heads coming most result.2.session result.2.input other.2.input
  /-- Once all bytes up to it have arrived, the reader rests for no want of them. -/
  rests : result.1 = false → coming = [] → Busy result.2.session

section Messages

variable {m : Engine state pending} {service after : Service state pending} {input : Input}
  {coming : Bytes} {most : Nat}

/-- Steps that leave both inputs leave the way to the exit in them. -/
theorem Heads.served {other : Input} (heads : Heads coming most service.session input other)
    (h : service.session.Coherent) (served : Served m service after) :
    Heads coming most after.session input other := by
  obtain ⟨acts, leads⟩ := served.leads
  refine heads.imp (leads.departs h) ?_
  rw [leads.config h]
  exact id

/-- Whoever does not go on after a message has one at the engine, or the session has ended. -/
theorem busy_settleMessage (service : Service state pending)
    (result : Session.Flow × Session state pending)
    (stays : (service.settleMessage m result).1 = false) :
    Busy (service.settleMessage m result).2.session := by
  unfold settleMessage at stays ⊢
  dsimp only at stays ⊢
  split
  · exact .inl (.inl (hasEnded_close m (service.follow result.2)))
  · next on =>
    rw [on] at stays
    exact .inr (by simpa [listen] using stays)

/-- The same of the message that waits. -/
theorem busy_resumeMessage (service : Service state pending)
    (stays : (service.resumeMessage m).1 = false) : Busy (service.resumeMessage m).2.session := by
  unfold resumeMessage at stays ⊢
  by_cases idle : service.session.turn.isNone = true
  · rw [if_pos idle] at stays
    cases stays
  · rw [if_neg idle] at stays ⊢
    by_cases cancelled : service.session.isCancelled = true
    · rw [if_pos cancelled]
      exact .inl (.inl (hasEnded_close m service))
    · rw [if_neg cancelled] at stays ⊢
      dsimp only at stays ⊢
      by_cases waits : ((service.session.resumeTurn m).1 == .on &&
          (service.session.resumeTurn m).2.turn.isSome) = true
      · obtain ⟨queue, waiting, cancellable, listening, hfollow⟩ :=
          follow_eq service (service.session.resumeTurn m).2
        rw [if_pos waits, hfollow]
        exact .inr (Bool.and_eq_true_iff.mp waits).2
      · rw [if_neg waits] at stays ⊢
        exact busy_settleMessage service _ stays

/-- The reader rests in front of either input. -/
theorem paired_rests {other : Input} (heads : Heads coming most service.session input other)
    (equal : coming ≠ [] → other = input) (busy : coming = [] → Busy service.session) :
    Paired coming most (false, service.withInput input) (false, service.withInput other) :=
  ⟨rfl, fun unfinished => by rw [equal unfinished], heads, fun _ => busy⟩

/-- What became of a message is taken up. -/
theorem paired_settleMessage {result : Session.Flow × Session state pending}
    (heads : Heads coming most (service.settleMessage m result).2.session service.input input)
    (equal : coming ≠ [] → input = service.input) :
    Paired coming most (service.settleMessage m result)
      ((service.withInput input).settleMessage m result) := by
  have left : (service.settleMessage m result).2.input = service.input :=
    congrArg (fun next => next.2.input) (settleMessage_withInput m service service.input result)
  have whole (unfinished : coming ≠ []) :
      (service.withInput input).settleMessage m result = service.settleMessage m result := by
    rw [equal unfinished]
    rfl
  refine ⟨?_, whole, ?_, fun stays _ => busy_settleMessage service result stays⟩
  · rw [settleMessage_withInput]
    rfl
  · rw [settleMessage_withInput, left]
    exact heads

/-- The message that waits goes on. -/
theorem paired_resumeMessage (h : Served m service service) (reading : service.phase = .reading)
    (heads : Heads coming most service.session service.input input)
    (equal : coming ≠ [] → input = service.input) :
    Paired coming most (service.resumeMessage m) ((service.withInput input).resumeMessage m) := by
  have left : (service.resumeMessage m).2.input = service.input :=
    congrArg (fun next => next.2.input) (resumeMessage_withInput m service service.input)
  have onward := heads.served h.coherent (h.resumeMessage reading).served
  have whole (unfinished : coming ≠ []) :
      (service.withInput input).resumeMessage m = service.resumeMessage m := by
    rw [equal unfinished]
    rfl
  refine ⟨?_, whole, ?_, fun stays _ => busy_resumeMessage service stays⟩
  · rw [resumeMessage_withInput]
    rfl
  · rw [resumeMessage_withInput, left]
    exact onward

/-- A frame that is read is handled, whatever else the input holds. -/
theorem readMessage_of_frame {payload rest : Bytes} (lasts : service.session.isCancelled ≠ true)
    (read : (input.read service.session.config.frameLimit).1 = .frame payload rest) :
    (service.withInput input).readMessage m =
      (service.withInput (input.read service.session.config.frameLimit).2).settleMessage m
        (service.session.handleFrame m service.world payload) := by
  unfold readMessage
  rw [session_withInput, input_withInput, if_neg lasts]
  dsimp only
  rw [read]
  rfl

/-- As long as there is not enough for a frame, the reader rests. -/
theorem readMessage_of_starved (lasts : service.session.isCancelled ≠ true)
    (read : (input.read service.session.config.frameLimit).1 = .starved) :
    (service.withInput input).readMessage m =
      (false, service.withInput (input.read service.session.config.frameLimit).2) := by
  unfold readMessage
  rw [session_withInput, input_withInput, if_neg lasts]
  dsimp only
  rw [read]
  rfl

/-- After the end no message is read. -/
theorem readMessage_of_cancelled (cancelled : service.session.isCancelled = true) :
    (service.withInput input).readMessage m = (false, (service.close m).withInput input) := by
  unfold readMessage
  rw [session_withInput, if_pos cancelled, close_withInput]

/-- The next message is handled. As soon as all bytes up to the exit have arrived, it takes some
of them. -/
theorem paired_readMessage (h : Served m service service) (reading : service.phase = .reading)
    (idle : service.session.turn = none)
    (heads : Heads coming most service.session service.input input)
    (equal : coming ≠ [] → input = service.input) :
    Paired coming (most - 1) (service.readMessage m) ((service.withInput input).readMessage m) ∧
      ((service.readMessage m).1 = true → coming = [] → 0 < most) := by
  have reads := (h.readMessage reading idle).served
  change Paired coming (most - 1) ((service.withInput service.input).readMessage m) _ ∧
    (((service.withInput service.input).readMessage m).1 = true → _)
  change Served m service ((service.withInput service.input).readMessage m).2 at reads
  by_cases cancelled : service.session.isCancelled = true
  · rw [readMessage_of_cancelled cancelled, readMessage_of_cancelled cancelled]
    have gone : (service.close m).session.Departs := .inl (hasEnded_close m service)
    exact ⟨paired_rests (.inl gone) equal fun _ => .inl gone, nofun⟩
  · obtain ⟨bytes, reaches, short, first, second⟩ := heads.resolve_left fun departs =>
      cancelled (h.coherent.isCancelled.trans (departs.hasEnded idle))
    obtain ⟨payload, rest, frame, leads⟩ := reaches.frame
    have shorter := Frame.length_read frame
    rcases first.read frame with ⟨left, read, holds⟩ | ⟨unfinished, read, holds⟩
    · -- The second input may hold other bytes behind the frame, but it holds the frame.
      obtain ⟨left', read', holds'⟩ : ∃ left',
          (input.read service.session.config.frameLimit).1 = .frame payload left' ∧
            (input.read service.session.config.frameLimit).2.Holds coming rest := by
        refine (second.read frame).resolve_right fun ⟨unfinished, starved, _⟩ => ?_
        rw [equal unfinished, read] at starved
        cases starved
      rw [readMessage_of_frame cancelled read] at reads ⊢
      rw [readMessage_of_frame cancelled read']
      obtain ⟨acts, steps⟩ := reads.leads
      refine ⟨paired_settleMessage ?_ fun unfinished => by rw [equal unfinished]; rfl,
        fun _ arrived => by have := short arrived; omega⟩
      rcases leads with ⟨params, decodes⟩ | further
      · exact .inl (departs_settleMessage _ (h.coherent.departs_handleFrame _ decodes))
      · refine .inr ⟨rest, ?_, fun arrived => by have := short arrived; omega, holds, holds'⟩
        rw [steps.config h.coherent]
        exact further
    · rw [equal unfinished, readMessage_of_starved cancelled read]
      have onward : Heads coming (most - 1) service.session _ _ :=
        .inr ⟨bytes, reaches, fun arrived => absurd arrived unfinished, holds, holds⟩
      exact ⟨paired_rests onward (fun _ => rfl) fun arrived => absurd arrived unfinished, nofun⟩

end Messages

/-! ## The reader -/

/-- Two services that differ in their inputs alone, on their way to the exit. As long as bytes
up to it are to come, nothing else has arrived, and they do not differ at all. -/
structure Abreast (m : Engine state pending) (coming : Bytes)
    (service other : Service state pending) : Prop where
  /-- The first one is coherent. -/
  served : Served m service service
  /-- The second one differs in its input. -/
  same : other = service.withInput other.input
  /-- It does so only once all bytes up to the exit have arrived. -/
  equal : coming ≠ [] → other = service
  /-- Both inputs hold the way to the exit. -/
  heads : ∃ most, Heads coming most service.session service.input other.input

section Reader

variable {m : Engine state pending} {service other : Service state pending} {input : Input}
  {coming : Bytes} {most : Nat}

/-- Two services go abreast if only their inputs differ. -/
theorem abreast_withInput (h : Served m service service)
    (heads : Heads coming most service.session service.input input)
    (equal : coming ≠ [] → input = service.input) :
    Abreast m coming service (service.withInput input) :=
  ⟨h, rfl, fun unfinished => congrArg service.withInput (equal unfinished), most, heads⟩

/-- What comes after a message: something else, or nothing. -/
def goOn (next : Service state pending → Service state pending)
    (result : Bool × Service state pending) : Service state pending :=
  if result.1 then next result.2 else result.2

/-- Messages are handled one after the other by going on after each of them. -/
theorem readMessages_succ (m : Engine state pending) (fuel : Nat)
    (service : Service state pending) :
    readMessages m (fuel + 1) service = goOn (readMessages m fuel) (service.readMessage m) := by
  unfold goOn
  rw [readMessages]
  generalize service.readMessage m = result
  obtain ⟨goes, next⟩ := result
  cases goes <;> rfl

/-- So they are after the message that waits. -/
theorem turnServing_of_reading (m : Engine state pending) {service : Service state pending}
    (reading : service.phase = .reading) : service.turnServing m =
      goOn (fun next => readMessages m next.input.size next) (service.resumeMessage m) := by
  unfold goOn turnServing
  rw [reading]
  dsimp only
  generalize service.resumeMessage m = result
  obtain ⟨goes, next⟩ := result
  cases goes <;> rfl

/-- Two services that were abreast are so whether they go on or rest. -/
theorem Paired.onward {result second : Bool × Service state pending}
    {next nextOther : Service state pending → Service state pending}
    (paired : Paired coming most result second) (reads : Served.Reads m service result)
    (goes : result.1 = true →
      Abreast m coming (next result.2) (nextOther (result.2.withInput second.2.input)) ∧
        (coming = [] → Busy (next result.2).session)) :
    Abreast m coming (goOn next result) (goOn nextOther second) ∧
      (coming = [] → Busy (goOn next result).session) := by
  obtain ⟨same, equal, heads, rests⟩ := paired
  obtain ⟨flow, after⟩ := result
  obtain ⟨flow', after'⟩ := second
  obtain ⟨rfl, differs⟩ := Prod.mk.inj same
  cases flow' with
  | false =>
    have whole (unfinished : coming ≠ []) : after' = after := congrArg Prod.snd (equal unfinished)
    exact ⟨⟨reads.served.renew, differs, whole, most, heads⟩, rests rfl⟩
  | true =>
    have further := goes rfl
    rw [← differs] at further
    exact further

/-- Messages are handled one after the other. The number of rounds may differ, as long as it
suffices for the bytes up to the exit. -/
theorem abreast_readMessages (fuel rounds : Nat) (h : Served m service service)
    (reading : service.phase = .reading) (idle : service.session.turn = none)
    (heads : Heads coming most service.session service.input input)
    (equal : coming ≠ [] → input = service.input ∧ rounds = fuel)
    (room : coming = [] → most < fuel ∧ most < rounds) :
    Abreast m coming (readMessages m fuel service)
        (readMessages m rounds (service.withInput input)) ∧
      (coming = [] → Busy (readMessages m fuel service).session) := by
  induction fuel generalizing service input most rounds with
  | zero =>
    have unfinished : coming ≠ [] := fun arrived => Nat.not_lt_zero most (room arrived).1
    obtain ⟨rfl, rfl⟩ := equal unfinished
    exact ⟨abreast_withInput h heads fun _ => rfl, fun arrived => absurd arrived unfinished⟩
  | succ fuel ih =>
    obtain ⟨rounds, rfl⟩ : ∃ others, rounds = others + 1 := by
      refine Nat.exists_eq_succ_of_ne_zero fun none => ?_
      by_cases arrived : coming = []
      · have := (room arrived).2
        omega
      · have := (equal arrived).2
        omega
    have reads := h.readMessage reading idle
    obtain ⟨paired, some⟩ := paired_readMessage h reading idle heads fun unfinished =>
      (equal unfinished).1
    rw [readMessages_succ, readMessages_succ]
    refine paired.onward reads fun goes =>
      ih rounds reads.served.renew (reads.reading goes) (reads.idle goes) paired.heads ?_ ?_
    · intro unfinished
      rw [paired.equal unfinished]
      exact ⟨rfl, Nat.succ.inj (equal unfinished).2⟩
    · intro arrived
      have taken := some goes arrived
      have enough := room arrived
      omega

/-- Messages are handled one after the other, as many as there is input for. -/
theorem abreast_readInput (h : Served m service service) (reading : service.phase = .reading)
    (idle : service.session.turn = none)
    (heads : Heads coming most service.session service.input input)
    (equal : coming ≠ [] → input = service.input) :
    Abreast m coming (readMessages m service.input.size service)
        (readMessages m input.size (service.withInput input)) ∧
      (coming = [] → Busy (readMessages m service.input.size service).session) := by
  have equal' : coming ≠ [] → input = service.input ∧ input.size = service.input.size :=
    fun unfinished => ⟨equal unfinished, congrArg Input.size (equal unfinished)⟩
  rcases heads with departs | ⟨bytes, reaches, -, first, second⟩
  · have gone : Heads coming 0 service.session service.input input := .inl departs
    exact abreast_readMessages _ _ h reading idle gone equal' fun _ =>
      ⟨service.input.size_pos, input.size_pos⟩
  · have held : Heads coming bytes.length service.session service.input input :=
      .inr ⟨bytes, reaches, fun _ => Nat.le_refl _, first, second⟩
    refine abreast_readMessages _ _ h reading idle held equal' ?_
    rintro rfl
    exact ⟨first.length_lt_size, second.length_lt_size⟩

/-- The one who reads has something to do, or waits for the engine, or will not read any more. -/
def Roused (service : Service state pending) : Prop :=
  service.session.Departs ∨
    (service.phase = .reading → .serving ∈ service.queue ∨ service.session.turn.isSome = true)

/-- Nobody reads from a session that departs, or while a message is at the engine. -/
theorem Busy.roused (h : Busy service.session) : Roused service :=
  h.imp id fun waits _ => .inr waits

/-- What leaves the inputs as they are keeps two services abreast. -/
theorem Abreast.change (h : Abreast m coming service other)
    (change : Service state pending → Service state pending)
    (deaf : ∀ input, change (service.withInput input) = (change service).withInput input)
    (served : Served m service (change service)) :
    Abreast m coming (change service) (change other) := by
  have kept : (change service).input = service.input :=
    congrArg (fun after => after.input) (deaf service.input)
  have differs : change other = (change service).withInput other.input :=
    (congrArg change h.same).trans (deaf other.input)
  obtain ⟨most, heads⟩ := h.heads
  have onward := heads.served h.served.coherent served
  rw [← kept] at onward
  rw [differs]
  refine abreast_withInput served.renew onward fun unfinished => ?_
  rw [kept, h.equal unfinished]

/-- The turn of the one who reads. Once all bytes up to the exit have arrived, it does not rest
for want of input. -/
theorem Abreast.turnServing (h : Abreast m coming service other) :
    Abreast m coming (service.turnServing m) (other.turnServing m) ∧
      (coming = [] → Roused (service.turnServing m)) := by
  obtain ⟨input, rfl⟩ : ∃ input, other = service.withInput input := ⟨other.input, h.same⟩
  obtain ⟨most, heads⟩ := h.heads
  rw [input_withInput] at heads
  have equal : coming ≠ [] → input = service.input := fun unfinished =>
    congrArg Service.input (h.equal unfinished)
  have same : (service.withInput input).phase = service.phase := rfl
  have idle {after : Service state pending} (rests : after.phase ≠ .reading) : after.Roused :=
    .inr fun reading => absurd reading rests
  cases phase : service.phase with
  | unstarted =>
    obtain ⟨begun, reading, idle⟩ := h.served.begin phase
    have kept : service.begin.input = service.input :=
      congrArg (fun after => after.input) (begin_withInput service service.input)
    have onward := heads.served h.served.coherent begun
    rw [← kept] at onward equal
    unfold Service.turnServing
    rw [same, phase, begin_withInput]
    obtain ⟨abreast, busy⟩ := abreast_readInput begun.renew reading idle onward equal
    exact ⟨abreast, fun arrived => (busy arrived).roused⟩
  | reading =>
    have reads := h.served.resumeMessage phase
    have paired := paired_resumeMessage h.served phase heads equal
    rw [turnServing_of_reading m phase, turnServing_of_reading m (same.trans phase)]
    obtain ⟨abreast, busy⟩ := paired.onward reads fun goes =>
      abreast_readInput reads.served.renew (reads.reading goes) (reads.idle goes) paired.heads
        fun unfinished => by rw [paired.equal unfinished]
    exact ⟨abreast, fun arrived => (busy arrived).roused⟩
  | closing =>
    have rests : service.finish.phase ≠ .reading := by
      unfold finish
      split
      · exact nofun
      · simp [phase]
    unfold Service.turnServing
    rw [same, phase]
    exact ⟨h.change finish (finish_withInput service) (h.served.finish phase), fun _ => idle rests⟩
  | finished outcome =>
    unfold Service.turnServing
    rw [same, phase]
    exact ⟨h, fun _ => idle (by simp [phase])⟩
  | abandoned =>
    unfold Service.turnServing
    rw [same, phase]
    exact ⟨h, fun _ => idle (by simp [phase])⟩

end Reader

end LspGateway.Service
