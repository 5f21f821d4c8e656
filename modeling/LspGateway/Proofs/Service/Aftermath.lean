import LspGateway.Engine.Bare
import LspGateway.Proofs.Frame.Encoding
import LspGateway.Proofs.Service.Abreast

/-!
# After the end

Nothing that a client sends after the exit, or after any other end, makes a difference. Two
services are led side by side, one in front of the bytes up to the exit alone, the other in
front of whatever follows them as well. Every move keeps the two abreast: those that bring
input to the second one alone, and all others made by both.
-/

namespace LspGateway.Service

variable {state pending : Type}

/-- Whether a move brings input, or the end of it. -/
def Move.bringsInput : Move state → Bool
  | .given (.arrive _) | .given .endInput => true
  | _ => false

/-- The moves that bring no input. -/
def unfed (made : List (Move state)) : List (Move state) :=
  made.filter fun move => !move.bringsInput

/-- Some bytes arrive at once. -/
def Move.arrival (bytes : Bytes) : Move state :=
  .given (.arrive (.data bytes))

/-- Two services that are abreast, and the reader of which does not wait for input once all bytes
up to the exit have arrived. -/
structure InStep (m : Engine state pending) (coming : Bytes)
    (service other : Service state pending) : Prop extends Abreast m coming service other where
  /-- The reader has something to do, or waits for the engine, or does not read any more. -/
  roused : coming = [] → service.Roused

section Moves

variable {m : Engine state pending} {service after other : Service state pending}
  {coming last : Bytes}

/-! ## Turns -/

/-- Who spares the reader leaves it roused. -/
theorem Spares.roused (spares : Spares service after) (h : service.session.Coherent)
    (served : Served m service after) (roused : service.Roused) : after.Roused := by
  obtain ⟨acts, leads⟩ := served.leads
  rcases roused with departs | waits
  · exact .inl (leads.departs h departs)
  · rcases spares.turn with same | ended
    · refine .inr fun reading => ?_
      rw [same]
      exact (waits (spares.reading reading)).imp_left (spares.queued .serving)
    · exact .inl (.inl ended)

/-- What leaves the inputs as they are and spares the reader keeps two services in step. -/
theorem InStep.change (h : InStep m coming service other)
    (change : Service state pending → Service state pending)
    (deaf : ∀ input, change (service.withInput input) = (change service).withInput input)
    (served : Served m service (change service)) (spares : Spares service (change service)) :
    InStep m coming (change service) (change other) :=
  ⟨h.toAbreast.change change deaf served, fun arrived =>
    spares.roused h.served.coherent served (h.roused arrived)⟩

/-- A job that is taken out of the queue has its turn. -/
theorem InStep.turn (h : InStep m coming service other) (job : Job) {queue : List Job}
    (left : ∀ waiting ∈ service.queue, waiting ≠ job → waiting ∈ queue) :
    InStep m coming ({ service with queue := queue }.turn m job)
      ({ other with queue := queue }.turn m job) := by
  have served : Served m service { service with queue := queue } :=
    h.served.arrange queue service.waiting service.cancellable service.listening
  have abreast : Abreast m coming { service with queue := queue } { other with queue := queue } :=
    h.toAbreast.change (fun service => { service with queue := queue }) (fun _ => rfl) served
  have dequeued (others : job ≠ .serving) :
      InStep m coming { service with queue := queue } { other with queue := queue } := by
    refine ⟨abreast, fun arrived => (h.roused arrived).imp id fun waits reading => ?_⟩
    exact (waits reading).imp_left fun queued => left .serving queued others.symm
  generalize { service with queue := queue } = taken at abreast dequeued ⊢
  generalize { other with queue := queue } = taken' at abreast dequeued ⊢
  have renewed : Served m taken taken := abreast.served
  cases job with
  | serving => exact ⟨abreast.turnServing.1, abreast.turnServing.2⟩
  | writing =>
    exact (dequeued nofun).change (Service.turnWriting m) (turnWriting_withInput m taken)
      renewed.turnWriting (spares_turnWriting taken)
  | request ticket =>
    have spares : Spares taken (taken.follow (taken.session.perform m (.work ticket))) :=
      spares_act renewed.coherent nofun nofun
    exact (dequeued nofun).change (fun service => service.turnRequest m ticket)
      (fun input => turnRequest_withInput m taken input ticket) (renewed.act (.worked ticket))
      spares
  | supervising number =>
    exact (dequeued nofun).change (fun service => service.turnSupervising m number)
      (fun input => turnSupervising_withInput m taken input number)
      (renewed.turnSupervising number) (spares_turnSupervising renewed.coherent number)

/-- Jobs have their turns. -/
theorem InStep.settleTurns (fuel : Nat) (h : InStep m coming service other) :
    InStep m coming (service.settleTurns m fuel) (other.settleTurns m fuel) := by
  induction fuel generalizing service other with
  | zero => exact h
  | succ fuel ih =>
    have queued : other.queue = service.queue := congrArg (fun after => after.queue) h.same
    unfold Service.settleTurns
    rw [queued]
    split
    · exact h
    · next job queue hqueue =>
      refine ih (h.turn job fun waiting queued others => ?_)
      rw [hqueue] at queued
      exact (List.mem_cons.mp queued).resolve_left others

/-! ## Commands -/

/-- The clock is moved. -/
theorem InStep.clock (h : InStep m coming service other) (now : Nat) :
    InStep m coming { service with world := { service.world with now := now } }
      { other with world := { other.world with now := now } } :=
  h.change (fun service => { service with world := { service.world with now := now } })
    (fun _ => rfl) (h.served.clock now) ⟨fun _ => id, id, .inl rfl⟩

/-- Supervisors are woken when they are due. -/
theorem InStep.wakeDue (h : InStep m coming service other) :
    InStep m coming (service.wakeAll service.dueJobs) (other.wakeAll other.dueJobs) :=
  h.change (fun service => service.wakeAll service.dueJobs)
    (fun input => wakeAll_withInput service input service.dueJobs) (h.served.wakeAll _)
    ((Spares.refl service).wakeAll _)

/-- Time passes. -/
theorem InStep.passTime (fuel target : Nat) (h : InStep m coming service other) :
    InStep m coming (service.passTime m fuel target) (other.passTime m fuel target) := by
  induction fuel generalizing service other with
  | zero => exact h.clock target
  | succ fuel ih =>
    have next : other.session.bridge.nextDue? target = service.session.bridge.nextDue? target :=
      congrArg (fun after => after.session.bridge.nextDue? target) h.same
    have now : other.world.now = service.world.now :=
      congrArg (fun after => after.world.now) h.same
    unfold Service.passTime
    rw [next]
    split
    · exact h.clock target
    · next due _ =>
      dsimp only
      rw [now]
      exact ih ((h.clock (max service.world.now due)).wakeDue.settleTurns Agenda.patience)

/-- A move that brings no input is made by both. -/
theorem InStep.move (h : InStep m coming service other) (move : Move state)
    (silent : move.bringsInput = false) : InStep m coming (service.move m move) (other.move m move) := by
  cases move with
  | turn job =>
    have queued : other.queue = service.queue := congrArg (fun after => after.queue) h.same
    unfold Service.move
    dsimp only
    rw [queued]
    exact h.turn job fun waiting queued others => (List.mem_erase_of_ne others).mpr queued
  | clock now => exact h.clock now
  | given command =>
    have served := h.served.apply command
    cases command with
    | arrive piece => cases silent
    | endInput => cases silent
    | emit event =>
      have spares : Spares service (service.follow (service.session.perform m (.publish event))) :=
        spares_act h.served.coherent nofun nofun
      exact h.change (fun service => (service.emit m event).2)
        (fun input => emit_withInput m service input event) served spares
    | stir change =>
      exact h.change (fun service => service.stir change)
        (fun input => stir_withInput service input change) served (spares_stir service change)
    | probe probe =>
      exact h.change (fun service => { service with world := { service.world with probe := probe } })
        (fun _ => rfl) served ⟨fun _ => id, id, .inl rfl⟩
    | advance time =>
      have settled := h.settleTurns Agenda.patience
      have bound (target : Nat) : (other.settle m).session.bridge.turnBound target =
          (service.settle m).session.bridge.turnBound target :=
        congrArg (fun after => after.session.bridge.turnBound target) settled.same
      have now : (other.settle m).world.now = (service.settle m).world.now :=
        congrArg (fun after => after.world.now) settled.same
      unfold Service.move Service.apply
      dsimp only
      rw [now, bound]
      exact settled.passTime _ _
    | abandon =>
      exact h.change (Service.abandon m) (abandon_withInput m service) served
        (spares_abandon service)

/-! ## Input -/

/-- Taking notice of input is waking the reader, if it waits, and taking the input over. -/
theorem feed_eq (service : Service state pending) (input : Input) :
    service.feed input =
      (if service.awaitsInput then service.wake .serving else service).withInput input := by
  change (if service.awaitsInput then (service.withInput input).wake .serving
    else service.withInput input) = _
  rw [wake_withInput]
  split <;> rfl

/-- Whoever is roused does not wait for input. -/
theorem feed_of_roused (h : service.session.Coherent) (roused : service.Roused) (input : Input) :
    service.feed input = service.withInput input := by
  rw [feed_eq]
  split
  · next waits =>
    simp only [awaitsInput, Bool.and_eq_true, beq_iff_eq, Option.isNone_iff_eq_none,
      Bool.not_eq_true'] at waits
    obtain ⟨⟨reading, idle⟩, lasts⟩ := waits
    have lives : service.session.hasEnded = false := h.isCancelled.symm.trans lasts
    have stays : ¬ service.session.Departs := fun departs =>
      absurd (lives.symm.trans (departs.hasEnded idle)) (by simp)
    -- The reader is in the queue already.
    have queued : .serving ∈ service.queue :=
      (roused.resolve_left stays reading).resolve_right (by simp [idle])
    rw [wake, if_pos (by simpa using queued)]
  · rfl

/-- Whoever was given input is roused. -/
theorem roused_feed (h : service.session.Coherent) (input : Input) :
    (service.feed input).Roused := by
  rw [feed_eq]
  split
  · refine .inr fun _ => .inl ?_
    rw [queue_withInput]
    exact mem_queue_wake service .serving
  · next rests =>
    by_cases ended : service.session.hasEnded = true
    · exact .inl (.inl ended)
    · have lasts : service.session.isCancelled = false := by
        rw [h.isCancelled]
        exact Bool.eq_false_iff.mpr ended
      refine .inr fun reading => .inr ?_
      rw [phase_withInput] at reading
      rw [session_withInput]
      simpa [awaitsInput, reading, lasts, Option.isSome_iff_ne_none] using rests

/-- Bytes arrive that were still to come; with the last of them more may arrive in front of the
second service. -/
theorem InStep.arrive {part : Bytes} (h : InStep m (part ++ coming) service service)
    (some : part ≠ []) (more : Bytes) (whole : coming ≠ [] → more = []) :
    InStep m coming (service.move m (.arrival part)) (service.move m (.arrival (part ++ more))) := by
  let input := service.input.arrive (.data part)
  let longer := service.input.arrive (.data (part ++ more))
  have served : Served m service (service.feed input) := h.served.apply (.arrive (.data part))
  have arrived : (service.feed input).input = input := by rw [feed_eq, input_withInput]
  have differs : service.feed longer = (service.feed input).withInput longer := by
    rw [feed_eq, feed_eq, withInput_withInput]
  have equal (unfinished : coming ≠ []) : longer = input := by
    change service.input.arrive (.data (part ++ more)) = _
    rw [whole unfinished, List.append_nil]
  have heads : ∃ most, Heads coming most service.session input longer := by
    obtain ⟨most, departs | ⟨bytes, reaches, -, holds, -⟩⟩ := h.heads
    · exact ⟨0, .inl departs⟩
    · refine ⟨bytes.length, .inr ⟨bytes, reaches, fun _ => Nat.le_refl _, holds.arrive some, ?_⟩⟩
      by_cases finished : coming = []
      · subst finished
        rw [List.append_nil] at holds
        have extended := holds.extend some more
        rw [← List.append_nil (part ++ more)] at extended
        exact extended.arrive (by simp [some])
      · rw [equal finished]
        exact holds.arrive some
  obtain ⟨most, heads⟩ := heads
  have onward : Heads coming most (service.feed input).session (service.feed input).input longer := by
    rw [arrived]
    exact heads.served h.served.coherent served
  change InStep m coming (service.feed input) (service.feed longer)
  rw [differs]
  refine ⟨abreast_withInput served.renew onward ?_, fun _ => roused_feed h.served.coherent input⟩
  rw [arrived]
  exact equal

/-- Input that arrives in front of the second service alone makes no difference. -/
theorem InStep.unheard (h : InStep m [] service other) (move : Move state)
    (brings : move.bringsInput = true) : InStep m [] service (other.move m move) := by
  obtain ⟨input, rfl⟩ : ∃ input, other = service.withInput input := ⟨other.input, h.same⟩
  have fed (next : Input) (holds : ∀ bytes, input.Holds [] bytes → next.Holds [] bytes) :
      InStep m [] service ((service.withInput input).feed next) := by
    have same : (service.withInput input).feed next = service.withInput next :=
      feed_of_roused h.served.coherent (h.roused rfl) next
    obtain ⟨most, heads⟩ := h.heads
    have onward : Heads [] most service.session service.input next :=
      heads.imp id fun ⟨bytes, reaches, short, first, second⟩ =>
        ⟨bytes, reaches, short, first, holds bytes second⟩
    rw [same]
    exact ⟨abreast_withInput h.served onward (absurd rfl), h.roused⟩
  cases move with
  | turn job => cases brings
  | clock now => cases brings
  | given command =>
    cases command with
    | arrive piece => exact fed _ fun bytes holds => holds.behind [piece] input.ended
    | endInput =>
      refine fed input.finish fun bytes holds => ?_
      simpa [Input.finish] using holds.behind [] true
    | _ => cases brings

/-- Moves follow each other. -/
theorem moves_append (m : Engine state pending) (service : Service state pending)
    (first second : List (Move state)) :
    service.moves m (first ++ second) = (service.moves m first).moves m second :=
  List.foldl_append

/-- Once all bytes up to the exit have arrived, further input makes no difference. -/
theorem InStep.later (h : InStep m [] service other) (made : List (Move state)) :
    InStep m [] (service.moves m (unfed made)) (other.moves m made) := by
  induction made generalizing service other with
  | nil => exact h
  | cons move rest ih =>
    cases brings : move.bringsInput with
    | true =>
      rw [unfed, List.filter_cons_of_neg (by simp [brings])]
      exact ih (h.unheard move brings)
    | false =>
      rw [unfed, List.filter_cons_of_pos (by simp [brings])]
      exact ih (h.move move brings)

/-- The bytes up to the exit arrive in parts, amid other moves, but for the last part. -/
theorem InStep.approach {early : List (Move state)} {parts : List Bytes}
    (brought : early.filter Move.bringsInput = parts.map Move.arrival) (filled : [] ∉ last :: parts)
    (h : InStep m (parts.flatten ++ last) service service) :
    InStep m last (service.moves m early) (service.moves m early) := by
  induction early generalizing service parts with
  | nil =>
    obtain rfl := List.map_eq_nil_iff.mp brought.symm
    exact h
  | cons move rest ih =>
    cases brings : move.bringsInput with
    | true =>
      rw [List.filter_cons_of_pos brings] at brought
      cases parts with
      | nil => cases brought
      | cons part parts =>
        obtain ⟨rfl, others⟩ := List.cons.inj brought
        have some : part ≠ [] := fun empty => filled (by simp [empty])
        rw [List.flatten_cons, List.append_assoc] at h
        have arrived := h.arrive some [] fun _ => rfl
        rw [List.append_nil] at arrived
        have fewer : last :: parts ⊆ last :: part :: parts :=
          List.cons_subset_cons last (List.subset_cons_self part parts)
        exact ih others (fun empty => filled (fewer empty)) arrived
    | false =>
      rw [List.filter_cons_of_neg (by simp [brings])] at brought
      exact ih brought filled (h.move move brings)

end Moves

/-! ## The end -/

/-- Nothing is handled after the end. If the bytes of a client reach an exit, whatever the parts
in which they arrive and whatever else happens meanwhile, then whatever follows, at once with the
last part or later, leaves no trace: the service comes to the same in all but its unread input,
also with an engine that notes down what it is asked. And once the session has ended, for
whatever reason, neither what is at hand nor what arrives later makes a difference, and no frame
is handled. -/
theorem unheard_after_end (m : Engine state pending) (engine : state) (config : SessionConfig)
    (sink : Sink) (probe : Nat → Except Supervisor.ProbeError Bool) :
    (∀ (early later : List (Move state)) (parts : List Bytes) (last more : Bytes),
      early.filter Move.bringsInput = parts.map Move.arrival → [] ∉ last :: parts →
      ReachesExit config.frameLimit (parts.flatten ++ last) →
      ∃ unread, (create engine config sink probe).moves m
          (early ++ .arrival (last ++ more) :: later) =
        ((create engine config sink probe).moves m
          (early ++ .arrival last :: unfed later)).withInput unread) ∧
    ∀ made : List (Move state),
      ((create engine config sink probe).moves m made).session.hasEnded = true →
      (∀ (input : Input) (later : List (Move state)), ∃ unread,
        (((create engine config sink probe).moves m made).withInput input).moves m later =
          (((create engine config sink probe).moves m made).moves m (unfed later)).withInput
            unread) ∧
      ∀ acts after, Leads m ((create engine config sink probe).moves m made) acts after →
        ∀ world payload, .receive world payload ∉ acts := by
  constructor
  · intro early later parts last more brought filled reaches
    have some : last ≠ [] := fun empty => filled (by simp [empty])
    have unfinished : parts.flatten ++ last ≠ [] := by simp [some]
    have start : Served m (create engine config sink probe) (create engine config sink probe) :=
      .create m engine config sink probe
    have heads : Heads (parts.flatten ++ last) 0 (Session.create engine config : Session state pending)
        .nothing .nothing :=
      .inr ⟨_, reaches, fun arrived => absurd arrived unfinished, Input.holds_nothing _,
        Input.holds_nothing _⟩
    have begun : InStep m (parts.flatten ++ last) (create engine config sink probe)
        (create engine config sink probe) :=
      ⟨abreast_withInput start heads fun _ => rfl, fun arrived => absurd arrived unfinished⟩
    have near := begun.approach brought filled
    rw [← List.append_nil last] at near
    have arrived := near.arrive some more (absurd rfl)
    rw [moves_append, moves_append]
    exact ⟨_, (arrived.later later).same⟩
  · intro made ended
    have served := (served_moves m engine config sink probe made).renew
    generalize (create engine config sink probe).moves m made = service at ended served ⊢
    refine ⟨fun input later => ?_, fun acts after leads => leads.unread served.coherent ended⟩
    have heads : Heads [] 0 service.session service.input input := .inl (.inl ended)
    have here : InStep m [] service (service.withInput input) :=
      ⟨abreast_withInput served heads (absurd rfl), fun _ => .inl (.inl ended)⟩
    exact ⟨_, (here.later later).same⟩

/-- The frame of the exit. -/
def Sample.exit : Bytes :=
  Frame.written (Chronicle.Sample.notification "exit")

/-- The frame of a request for what nobody offers. -/
def Sample.pipelined : Bytes :=
  Frame.written (Chronicle.Sample.request "1" "no/such" "null")

/-- Whether a message is a notification of some method. -/
def Sample.notifies (method : String) : Incoming → Bool
  | .notification other _ => other == method
  | _ => false

/-- The frame of the exit reaches it. -/
theorem Sample.reachesExit : ReachesExit 1000 Sample.exit := by
  have first : (Frame.read 1000 false Sample.exit).result? =
      some (.ok (some (Chronicle.Sample.notification "exit"))) := by
    decide +kernel
  have decodes : (Incoming.decode (Chronicle.Sample.notification "exit")).toOption.any
      (Sample.notifies "exit") = true := by
    decide +kernel
  obtain ⟨rest, frame⟩ := Frame.Reading.result?_eq_frame_iff.mp first
  cases decoded : Incoming.decode (Chronicle.Sample.notification "exit") with
  | error rejection =>
    rw [decoded] at decodes
    cases decodes
  | ok message =>
    rw [decoded] at decodes
    cases message with
    | notification method params =>
      rw [eq_of_beq decodes] at decoded
      exact .exit frame decoded
    | request id method params => cases decodes
    | response id result error => cases decodes

/-- An exit, and behind it in the same delivery a request: the session ends, the request leaves no
trace, and no frame is handled from then on. -/
theorem unheard_after_end_of_pipelined :
    let start : Service Unit Empty := create () ⟨2000, 1000⟩ .unlimited fun _ => .ok false
    let ended := start.moves Engine.bare [.arrival Sample.exit, .turn .serving]
    ReachesExit 1000 Sample.exit ∧ ended.session.hasEnded = true ∧
      (∃ unread, start.moves Engine.bare [.arrival (Sample.exit ++ Sample.pipelined),
        .turn .serving, .given .endInput] = ended.withInput unread) ∧
      ∀ acts after, Leads Engine.bare ended acts after →
        ∀ world payload, .receive world payload ∉ acts := by
  intro start ended
  have gone : ended.session.hasEnded = true := by
    decide +kernel
  obtain ⟨followed, later⟩ :=
    unheard_after_end Engine.bare () ⟨2000, 1000⟩ .unlimited fun _ => .ok false
  have unheard := followed [] [.turn .serving, .given .endInput] [] Sample.exit Sample.pipelined
    rfl (by decide +kernel) Sample.reachesExit
  exact ⟨Sample.reachesExit, gone, unheard, (later _ gone).2⟩

end LspGateway.Service
