import LspGateway.Proofs.Session.Summons
import LspGateway.Proofs.Session.Tending

/-!
# How a session ends

There are a few things that end a session: the exit, once the engine has answered it, a
supervisor that finds its process dead, the end of the input, a fault of the input or the
output, and being given up. Each act brings about at most one of them, which can be told
before it is performed. The first that comes is the reason that the session keeps, and
whether the client left as it should depends on nothing else but a request for the shutdown
that was received in the phase for it.
-/

namespace LspGateway

namespace Session

variable {state pending : Type}

/-! ## Reasons to end -/

/-- The reason that the end of a call gives, if it gives one: only the exit does. -/
def departure? (duty : Duty) (answer : state × Engine.Turn pending) : Option Ending :=
  match duty, answer.2.progress with
  | .exit, .done _ => some .exit
  | _, _ => none

/-- Whether a supervisor, in its next turn, asks for its process and finds it dead. -/
def findsDead (session : Session state pending) (world : World) (number : Nat) : Bool :=
  (session.bridge.supervisor? number).any fun supervisor =>
    !supervisor.finished && !(supervisor.stopped || session.isCancelled) &&
      supervisor.due ≤ world.now &&
        match world.probe supervisor.pid with
        | .ok alive => !alive
        | .error _ => false

/-- The reason to end that an act brings about, if it does. -/
def prompt? (m : Engine state pending) (session : Session state pending) :
    Act state → Option Ending
  | .receive _ payload =>
    if session.reads then
      (session.summons? payload).bind fun (duty, call) =>
        departure? duty (m.begin call none session.bridge.engine)
    else none
  | .resume =>
    if session.isCancelled then none
    else session.turn.bind fun turn =>
      departure? turn.duty (m.resume turn.call none session.bridge.engine)
  | .watch world number => if session.findsDead world number then some .clientGone else none
  | .inputEnded | .close => some .transportClosed
  | .inputFailed fault =>
    some (if fault.isUnexpectedEnd then .transportClosed else .transportFailed)
  | .outputFailed _ => some .transportFailed
  | .work _ | .publish _ | .stir _ | .note _ | .take | .dropReceiver => none

/-- What an act has made of the reason: it ends the session exactly if it was prompted to. -/
structure Prompted (prompt : Option Ending) (before after : Session state pending) : Prop where
  /-- The session has ended if there was a reason. -/
  ended : after.hasEnded = prompt.isSome
  /-- It is kept. -/
  ending : after.lifecycle.ending = prompt.or before.lifecycle.ending

section Steps

variable {m : Engine state pending} {session after : Session state pending}

/-- A session that was made to end has ended, whatever it was before. -/
theorem ended_terminate (m : Engine state pending) (session : Session state pending)
    (ending : Ending) : (session.terminate m ending).hasEnded = true := by
  cases lives : session.hasEnded with
  | true =>
    rw [terminate_of_exited m session ending (by simpa [hasEnded] using lives)]
    exact lives
  | false => exact (alike_terminate m lives ending).hasEnded

/-- Nothing has happened to the lifecycle. -/
theorem prompted_none (lives : session.hasEnded = false)
    (lifecycle : after.lifecycle = session.lifecycle) : Prompted none session after := by
  refine ⟨?_, by rw [lifecycle]; rfl⟩
  unfold hasEnded at lives ⊢
  rw [lifecycle, lives]
  rfl

/-- The end of a session that lasts has the reason that is given. -/
theorem prompted_terminate (told : Session state pending) (lives : told.hasEnded = false)
    (ending : Ending) : Prompted (some ending) session (told.terminate m ending) := by
  refine ⟨ended_terminate m told ending, ?_⟩
  rw [(alike_terminate m lives ending).lifecycle]
  rfl

/-- Going on with a message ends the session only after the exit. -/
theorem Continued.prompted {duty : Duty} {answer : state × Engine.Turn pending}
    (hc : Continued m session duty answer after) (fits : duty.FitsIn session.lifecycle.phase) :
    Prompted (departure? duty answer) session after := by
  have lives : session.hasEnded = false := by simpa [hasEnded] using fits.ne_exited
  cases hc with
  | waits call progress alike =>
    have stays : departure? duty answer = none := by
      unfold departure?
      rw [progress]
      cases duty <;> rfl
    rw [stays]
    exact prompted_none lives alike.lifecycle
  | @ends told after outcome progress alike concluded =>
    have lasts : told.hasEnded = false := alike.hasEnded.trans lives
    have same : told.lifecycle = session.lifecycle := alike.lifecycle
    have stays (other : duty ≠ .exit) : departure? duty answer = none := by
      unfold departure?
      cases duty with
      | exit => exact absurd rfl other
      | _ => rfl
    cases concluded with
    | @answered told' id said asker hlast =>
      rw [stays (by rintro rfl; exact absurd asker (by simp [Duty.asker?]))]
      have settled : (told'.send (.response (some id) said)).lifecycle =
          duty.settle outcome session.lifecycle := by
        rw [← same]
        exact hlast.lifecycle
      refine ⟨?_, ?_⟩
      · unfold hasEnded
        rw [settled]
        simpa using Coherent.settle_ne_exited fits outcome
      · rw [settled]
        exact duty.ending_settle outcome session.lifecycle
    | seen asker other hlast =>
      rw [stays other]
      exact prompted_none lives (hlast.lifecycle.trans same)
    | left leaves hlast =>
      have goes : departure? duty answer = some .exit := by
        unfold departure?
        rw [leaves, progress]
      rw [goes]
      exact prompted_terminate _ (hlast.hasEnded.trans lasts) .exit

/-- A frame ends the session exactly if it is the exit and the engine answers at once. -/
theorem Coherent.prompted_handleFrame (h : session.Coherent) (lives : session.hasEnded = false)
    (idle : session.turn = none) (world : World) (payload : Bytes) :
    Prompted ((session.summons? payload).bind fun (duty, call) =>
      departure? duty (m.begin call none session.bridge.engine)) session
        (session.handleFrame m world payload).2 := by
  have heard : Heard m world session payload (session.handleFrame m world payload).2 :=
    handleFrame_heard h lives
  generalize (session.handleFrame m world payload).2 = after at heard ⊢
  cases heard with
  | unheard silent unmoved =>
    rw [silent]
    exact prompted_none lives unmoved.lifecycle
  | @asked told duty next call summons starts alike still =>
    have attended := alike.trans (.attend told world (session.named? payload))
    obtain ⟨begun, fits⟩ := h.begun lives idle starts attended
    obtain ⟨ended, ending⟩ := (begun.asked (m := m) duty call).prompted fits
    rw [attended.engine] at ended ending
    rw [summons]
    refine ⟨ended, ending.trans ?_⟩
    rw [attended.lifecycle, starts.ending]
    rfl

/-- A turn of a supervisor ends the session exactly if it finds its process dead. -/
theorem prompted_turnSupervisor (lives : session.hasEnded = false) (world : World) (number : Nat) :
    Prompted (if session.findsDead world number then some .clientGone else none) session
      (session.turnSupervisor m world number) := by
  have found : (session.bridge.turnSupervisor number session.isCancelled world.now
      world.probe).1.exited = session.findsDead world number := by
    unfold Bridge.turnSupervisor findsDead
    cases session.bridge.supervisor? number with
    | none => rfl
    | some supervisor =>
      dsimp only [Option.any_some]
      unfold Supervisor.turn
      by_cases ended : supervisor.finished = true
      · simp [ended]
      by_cases unwanted : (supervisor.stopped || session.isCancelled) = true
      · simp [ended, unwanted, Supervisor.finish]
      by_cases due : supervisor.due ≤ world.now
      · rcases world.probe supervisor.pid with _ | (_ | _) <;>
          simp [ended, unwanted, due, Supervisor.ask]
      · simp [ended, unwanted, due]
  unfold Session.turnSupervisor
  dsimp only
  rw [found]
  cases session.findsDead world number with
  | true =>
    refine prompted_terminate _ ?_ .clientGone
    exact lives
  | false => exact prompted_none lives rfl

/-- As long as a session lasts, an act ends it exactly if it is prompted to. -/
theorem Coherent.prompted_perform (h : session.Coherent) (lives : session.hasEnded = false)
    (act : Act state) : Prompted (session.prompt? m act) session (session.perform m act) := by
  have goes : session.isCancelled = false := h.isCancelled.trans lives
  cases act with
  | receive world payload =>
    simp only [prompt?, Session.perform]
    split
    · next reads =>
      exact h.prompted_handleFrame lives (h.reads_eq_true_iff.mp reads).1 world payload
    · exact prompted_none lives rfl
  | resume =>
    simp only [prompt?, Session.perform, goes, Bool.false_eq_true, if_false]
    unfold resumeTurn
    cases waits : session.turn with
    | none => exact prompted_none lives rfl
    | some turn =>
      have continued : Continued m session turn.duty
          (m.resume turn.call none session.bridge.engine) _ :=
        continueTurn_continued h.onlyForwards _
      exact continued.prompted (h.fits lives waits)
  | work ticket => exact prompted_none lives (runTask_worked h.onlyForwards ticket).lifecycle
  | watch world number => exact prompted_turnSupervisor lives world number
  | dropReceiver =>
    refine prompted_none lives ?_
    simp only [Session.perform]
    split <;> rfl
  | publish event => exact prompted_none lives rfl
  | stir change => exact prompted_none lives rfl
  | note entries => exact prompted_none lives rfl
  | take => exact prompted_none lives rfl
  | inputEnded => exact prompted_terminate (session.report _) lives _
  | inputFailed fault =>
    simp only [prompt?, Session.perform, inputFailed]
    split
    · exact prompted_terminate (session.report _) lives _
    · exact prompted_terminate (session.report _) lives _
  | outputFailed fault => exact prompted_terminate (session.report _) lives _
  | close => exact prompted_terminate (session.withTurn none) lives _

/-- Once a session has ended, its lifecycle does not change. -/
theorem Coherent.lifecycle_perform_of_ended (h : session.Coherent)
    (ended : session.hasEnded = true) (act : Act state) :
    (session.perform m act).lifecycle = session.lifecycle := by
  have performed : Performed m session act (session.perform m act) := perform_performed h act
  generalize session.perform m act = after at performed ⊢
  cases performed with
  | quiet unread kept other alike => exact alike.lifecycle
  | handled world payload lives idle hu => exact absurd (lives.symm.trans ended) (by simp)
  | resumed turn lives waits hc => exact absurd (lives.symm.trans ended) (by simp)
  | worked ticket hw => exact hw.lifecycle
  | stirred change => rfl
  | taken => rfl
  | dropped closed => rfl
  | @ended act told ending turn unread kept other cut alike =>
    have same : told.lifecycle = session.lifecycle := alike.lifecycle
    rw [terminate_of_exited m told ending, same]
    rw [same]
    exact (beq_iff_eq (a := session.lifecycle.phase)).mp ended

end Steps

/-! ## The request for the shutdown -/

/-- Whether a frame is a request for the shutdown that was received in the phase for it. -/
def Receipt.shutsDown (receipt : Receipt state pending) : Bool :=
  match Incoming.decode receipt.payload with
  | .ok (.request _ method _) =>
    method == "shutdown" && receipt.found.lifecycle.phase == .initialized
  | _ => false

/-- One method leads to the shutdown. -/
theorem route?_eq_shutdown_iff (method : String) :
    MethodTable.standard.route? method = some (.control .shutdown) ↔ method = "shutdown" := by
  constructor
  · intro routed
    obtain ⟨before, after, hroutes, -⟩ := List.lookup_eq_some_iff.mp routed
    have hmem : (method, Route.control .shutdown) ∈ MethodTable.standard.routes := by
      rw [hroutes]
      exact List.mem_append_right before List.mem_cons_self
    simpa [MethodTable.standard, MethodTable.controls] using hmem
  · rintro rfl
    decide +kernel

/-- A request for the shutdown, and nothing else, begins the duty of the shutdown. -/
theorem Receipt.shutsDown_eq (session : Session state pending) (payload : Bytes) :
    Receipt.shutsDown ⟨session, payload⟩ =
      (session.summons? payload).any fun (duty, _) =>
        match duty with
        | .shutdown _ => true
        | _ => false := by
  unfold Receipt.shutsDown summons?
  cases Incoming.decode payload with
  | error rejection => rfl
  | ok incoming =>
    cases incoming with
    | response id result error => rfl
    | notification method params =>
      dsimp only
      split
      · rfl
      · rfl
      · cases Dispatch.decode (.notice _) params <;> rfl
      · rfl
    | request id method params =>
      dsimp only
      split
      · next routed _ =>
        have other : method ≠ "shutdown" := fun same =>
          absurd (routed.symm.trans ((route?_eq_shutdown_iff method).mpr same)) (by simp)
        rw [beq_eq_false_iff_ne.mpr other]
        cases Dispatch.decode .opening params <;> rfl
      · next routed phase =>
        rw [(route?_eq_shutdown_iff method).mp routed, phase]
        rfl
      · next others =>
        by_cases same : method = "shutdown"
        · have routed := (route?_eq_shutdown_iff method).mpr same
          rw [beq_eq_false_iff_ne.mpr fun phase => others routed phase, Bool.and_false]
          rfl
        · rw [beq_eq_false_iff_ne.mpr same]
          rfl

section Steps

variable {m : Engine state pending} {session after : Session state pending}

/-- Going on with a message neither asks for the shutdown nor takes it back. -/
theorem Continued.shutdownRequested {duty : Duty} {answer : state × Engine.Turn pending}
    (hc : Continued m session duty answer after) :
    after.lifecycle.shutdownRequested = session.lifecycle.shutdownRequested := by
  cases hc with
  | waits call progress alike => exact congrArg Lifecycle.shutdownRequested alike.lifecycle
  | @ends told after outcome progress alike concluded =>
    have same : told.lifecycle = session.lifecycle := alike.lifecycle
    rw [← same]
    cases concluded with
    | answered id said asker hlast =>
      exact (congrArg Lifecycle.shutdownRequested hlast.lifecycle).trans
        (duty.shutdownRequested_settle outcome told.lifecycle)
    | seen asker other hlast => exact congrArg Lifecycle.shutdownRequested hlast.lifecycle
    | left leaves hlast =>
      rw [shutdownRequested_terminate]
      exact congrArg Lifecycle.shutdownRequested hlast.lifecycle

/-- The shutdown counts as asked for from the frame on that asks for it. -/
theorem Coherent.shutdownRequested_handleFrame (h : session.Coherent)
    (lives : session.hasEnded = false) (idle : session.turn = none) (world : World)
    (payload : Bytes) : (session.handleFrame m world payload).2.lifecycle.shutdownRequested =
      (session.lifecycle.shutdownRequested || Receipt.shutsDown ⟨session, payload⟩) := by
  have heard : Heard m world session payload (session.handleFrame m world payload).2 :=
    handleFrame_heard h lives
  generalize (session.handleFrame m world payload).2 = after at heard ⊢
  rw [Receipt.shutsDown_eq]
  cases heard with
  | unheard silent unmoved =>
    rw [silent, unmoved.lifecycle]
    exact (Bool.or_false _).symm
  | @asked told duty next call summons starts alike still =>
    have attended := alike.trans (.attend told world (session.named? payload))
    obtain ⟨begun, fits⟩ := h.begun lives idle starts attended
    rw [(begun.asked (m := m) duty call).shutdownRequested, attended.lifecycle, summons]
    have hinv := starts.inv
    cases duty with
    | opening id => simp [hinv.2]
    | confirmation => simp [hinv.2]
    | shutdown id => simp [hinv.2]
    | exit => simp [show next = session.lifecycle from hinv]
    | notice notice => simp [hinv.2]

/-- A frame that brings about a reason to end does not ask for the shutdown. -/
theorem unasked_of_prompt {act : Act state} {ending : Ending}
    (prompt : session.prompt? m act = some ending) :
    (session.received act).any Receipt.shutsDown = false := by
  cases act with
  | receive world payload =>
    simp only [prompt?] at prompt
    split at prompt
    · next reads =>
      obtain ⟨⟨duty, call⟩, summons, departs⟩ := Option.bind_eq_some_iff.mp prompt
      rw [received, if_pos reads, List.any_cons, List.any_nil, Bool.or_false,
        Receipt.shutsDown_eq, summons]
      cases duty with
      | shutdown id => exact absurd departs (by simp [departure?])
      | _ => rfl
    · exact absurd prompt (by simp)
  | _ => rfl

/-- An act in which no frame is handled leaves it open whether the shutdown was asked for. -/
theorem Coherent.shutdownRequested_of_unread (h : session.Coherent) {act : Act state}
    (unread : session.received act = []) :
    (session.perform m act).lifecycle.shutdownRequested = session.lifecycle.shutdownRequested := by
  have performed : Performed m session act (session.perform m act) := perform_performed h act
  generalize session.perform m act = after at performed ⊢
  cases performed with
  | quiet unread kept other alike => exact congrArg Lifecycle.shutdownRequested alike.lifecycle
  | handled world payload lives idle hu =>
    rw [received, if_pos (h.reads_eq_true_iff.mpr ⟨idle, lives⟩)] at unread
    exact absurd unread (List.cons_ne_nil _ _)
  | resumed turn lives waits hc => exact hc.shutdownRequested
  | worked ticket hw => exact congrArg Lifecycle.shutdownRequested hw.lifecycle
  | stirred change => rfl
  | taken => rfl
  | dropped closed => rfl
  | ended ending turn unread kept other cut alike =>
    rw [shutdownRequested_terminate]
    exact congrArg Lifecycle.shutdownRequested alike.lifecycle

/-- Nothing but a request for the shutdown makes it count as asked for. -/
theorem Coherent.requested_perform (h : session.Coherent) (act : Act state) :
    (session.perform m act).lifecycle.shutdownRequested =
      (session.lifecycle.shutdownRequested || (session.received act).any Receipt.shutsDown) := by
  by_cases unread : session.received act = []
  · rw [h.shutdownRequested_of_unread unread, unread]
    exact (Bool.or_false _).symm
  · cases act with
    | receive world payload =>
      by_cases reads : session.reads = true
      · obtain ⟨idle, lives⟩ := h.reads_eq_true_iff.mp reads
        simp only [Session.perform, received, reads, if_true]
        simpa using h.shutdownRequested_handleFrame (m := m) lives idle world payload
      · exact absurd (if_neg reads) unread
    | _ => exact absurd rfl unread

end Steps

end Session

/-! ## Runs -/

namespace Chronicle

variable {state pending : Type} {m : Engine state pending} {chronicle : Chronicle state pending}

/-- The first reason to end that comes up while acts follow each other. -/
def reason? (m : Engine state pending) :
    Chronicle state pending → List (Session.Act state) → Option Ending
  | _, [] => none
  | chronicle, act :: rest =>
    (chronicle.session.prompt? m act).or (reason? m (chronicle.perform m act) rest)

/-- It comes up in an act before which there was none. -/
theorem reason?_eq_some_iff {acts : List (Session.Act state)} {ending : Ending} :
    chronicle.reason? m acts = some ending ↔ ∃ earlier act later, acts = earlier ++ act :: later ∧
      chronicle.reason? m earlier = none ∧
      (chronicle.run m earlier).session.prompt? m act = some ending := by
  induction acts generalizing chronicle with
  | nil => simp [reason?]
  | cons act rest ih =>
    rw [reason?]
    cases first : chronicle.session.prompt? m act with
    | some sooner =>
      constructor
      · intro same
        exact ⟨[], act, rest, rfl, rfl, first.trans same⟩
      · rintro ⟨earlier, other, later, hacts, hnone, hsome⟩
        cases earlier with
        | nil =>
          obtain ⟨rfl, rfl⟩ := List.cons.inj hacts
          exact first.symm.trans hsome
        | cons head earlier =>
          obtain ⟨rfl, rfl⟩ := List.cons.inj hacts
          rw [reason?, first] at hnone
          exact absurd hnone (by simp)
    | none =>
      rw [Option.none_or, ih]
      constructor
      · rintro ⟨earlier, other, later, rfl, hnone, hsome⟩
        refine ⟨act :: earlier, other, later, rfl, ?_, hsome⟩
        rw [reason?, first, hnone]
        rfl
      · rintro ⟨earlier, other, later, hacts, hnone, hsome⟩
        cases earlier with
        | nil =>
          obtain ⟨rfl, rfl⟩ := List.cons.inj hacts
          exact absurd (first.symm.trans hsome) (by simp)
        | cons head earlier =>
          obtain ⟨rfl, rfl⟩ := List.cons.inj hacts
          rw [reason?, first, Option.none_or] at hnone
          exact ⟨earlier, other, later, rfl, hnone, hsome⟩

/-- After the end the lifecycle does not change. -/
theorem lifecycle_run_of_ended (coherent : chronicle.session.Coherent)
    (ended : chronicle.session.hasEnded = true) (acts : List (Session.Act state)) :
    (chronicle.run m acts).session.lifecycle = chronicle.session.lifecycle := by
  refine (run_induction (fun c => c.session.hasEnded = true ∧
    c.session.lifecycle = chronicle.session.lifecycle) ?_ coherent ⟨ended, rfl⟩ acts).2
  rintro c act hc ⟨hended, same⟩
  exact ⟨(hc.perform_of_ended hended act).1, (hc.lifecycle_perform_of_ended hended act).trans same⟩

/-- A run ends a session exactly if there comes up a reason to, and the first one stays the
reason. -/
theorem prompted_run (coherent : chronicle.session.Coherent)
    (lives : chronicle.session.hasEnded = false) (acts : List (Session.Act state)) :
    Session.Prompted (chronicle.reason? m acts) chronicle.session
      (chronicle.run m acts).session := by
  induction acts generalizing chronicle with
  | nil => exact Session.prompted_none lives rfl
  | cons act rest ih =>
    obtain ⟨ended, ending⟩ := coherent.prompted_perform (m := m) lives act
    rw [reason?]
    cases prompt : chronicle.session.prompt? m act with
    | some first =>
      rw [prompt] at ended ending
      have before : (chronicle.perform m act).session.hasEnded = true := ended
      refine ⟨(run_of_ended (coherent.perform act) before rest).1, ?_⟩
      have kept := lifecycle_run_of_ended (m := m) (coherent.perform act) before rest
      exact (congrArg Lifecycle.ending kept).trans ending
    | none =>
      rw [prompt] at ended ending
      have later := @ih (chronicle.perform m act) (coherent.perform act) ended
      refine ⟨later.ended, later.ending.trans ?_⟩
      exact congrArg (Option.or _) ending

/-- The shutdown counts as asked for exactly if a request for it was received in the phase
for it. -/
theorem requested_run (m : Engine state pending) (engine : state) (config : SessionConfig)
    (acts : List (Session.Act state)) :
    ((start engine config).run m acts).session.lifecycle.shutdownRequested =
      ((start engine config).run m acts).receipts.any Session.Receipt.shutsDown := by
  refine run_induction (fun c => c.session.lifecycle.shutdownRequested =
    c.receipts.any Session.Receipt.shutsDown) (fun c act hc same => ?_)
    (.create engine config) rfl acts
  change (c.session.perform m act).lifecycle.shutdownRequested =
    (c.receipts ++ c.session.received act).any Session.Receipt.shutsDown
  rw [hc.requested_perform, same, List.any_append]

end Chronicle

end LspGateway
