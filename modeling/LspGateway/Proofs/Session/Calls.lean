import LspGateway.Proofs.Session.Accounting
import LspGateway.Proofs.Session.Order
import Mathlib.Data.List.Perm.Subperm
import Mathlib.Data.List.ReduceOption

/-!
# Calls for features

A call for a feature begins when the task of a request goes on for the first time
and its parameters fit, and at no other time. The task comes of a frame that
was received in the phase for it. What else is asked of the engine is asked while
a message is handled in its turn.
-/

namespace LspGateway.Session

open Engine

variable {state pending : Type}

/-- The call that a task is still to begin, if its parameters fit. -/
def Task.upcoming? (task : Task pending) : Option Engine.Call :=
  match task.stage with
  | .spawned params => (Dispatch.decode (.feature task.feature) params).toOption
  | .waiting _ => none

/-- The calls that tasks are still to begin. -/
def upcoming (session : Session state pending) : List Engine.Call :=
  session.tasks.filterMap Task.upcoming?

/-- Whether a call is for a feature. -/
def isFeature (call : Engine.Call) : Bool :=
  match call.operation with
  | .feature _ => true
  | _ => false

/-- The call for a feature that begins in an act, and whether it is cancelled. -/
def begins? (session : Session state pending) : Act state → Option (Engine.Call × Option Bool)
  | .work ticket => (session.task? ticket).bind fun task =>
    task.upcoming?.map fun call => (call, some (session.cancelledTask task))
  | _ => none

/-- The call that a frame asks for, if it holds a request for a feature that is
received in the phase for it. -/
def Receipt.call? (receipt : Receipt state pending) : Option Engine.Call :=
  match Incoming.decode receipt.payload with
  | .ok (.request _ method params) =>
    match MethodTable.standard.route? method with
    | some (.feature feature) =>
      if receipt.found.lifecycle.phase = .initialized then
        (Dispatch.decode (.feature feature) params).toOption
      else none
    | _ => none
  | _ => none

section Tasks

variable {m : Engine state pending} {session : Session state pending}

/-- Sessions that are alike have the same calls to begin. -/
theorem Alike.upcoming {told : Session state pending} (h : session.Alike told) :
    told.upcoming = session.upcoming := by
  unfold Session.upcoming
  rw [h.tasks]

/-- With the same tasks there are the same calls to begin. -/
theorem upcoming_congr {other : Session state pending} (h : other.tasks = session.tasks) :
    other.upcoming = session.upcoming := by
  unfold upcoming
  rw [h]

/-- The call of a task, and those of the others. -/
theorem perm_upcoming (h : session.Coherent) {task : Task pending} (ht : task ∈ session.tasks) :
    session.upcoming.Perm (task.upcoming?.toList ++ (session.retire task).upcoming) := by
  have hperm := (perm_cons_filter_ticket ht h.agreement.tickets).filterMap Task.upcoming?
  rw [List.filterMap_cons] at hperm
  cases hu : task.upcoming? <;> rw [hu] at hperm <;> exact hperm

/-- A task that waits has no call to begin. -/
theorem upcoming_park (session : Session state pending) (task : Task pending) (call : pending) :
    (session.park task call).upcoming = (session.retire task).upcoming := by
  unfold upcoming park retire
  rw [List.filterMap_map, List.filterMap_filter]
  refine congrArg (fun view => session.tasks.filterMap view) (funext fun other => ?_)
  simp only [Function.comp_apply]
  by_cases heq : other.ticket = task.ticket
  · simp [heq, Task.upcoming?]
  · simp [heq]

/-- Letting a task go on begins its call, if it has one to begin. -/
theorem Worked.upcoming {ticket : Nat} {after : Session state pending}
    (hw : Worked m session ticket after) (h : session.Coherent) :
    (((session.begins? (.work ticket : Act state)).map Prod.fst).toList ++
      after.upcoming).Subperm session.upcoming := by
  -- The call of the task begins or was found not to fit, and the other tasks are left.
  have others {task : Task pending} (found : session.task? ticket = some task)
      {last : Session state pending} (hl : last.upcoming = (session.retire task).upcoming) :
      (((session.begins? (.work ticket : Act state)).map Prod.fst).toList ++
        last.upcoming).Subperm session.upcoming := by
    have begun : (session.begins? (.work ticket : Act state)).map Prod.fst = task.upcoming? := by
      simp only [begins?, found, Option.bind_some]
      cases task.upcoming? <;> rfl
    rw [begun, hl]
    exact (perm_upcoming h (Coherent.mem_of_task? found).1).symm.subperm
  cases hw with
  | absent missing =>
    simp only [begins?, missing, Option.bind_none, Option.map_none, Option.toList_none]
    exact .refl _
  | refused task answer found consulted alike =>
    exact others found (upcoming_congr alike.tasks)
  | parked task turn call found consulted progress alike =>
    exact others found (alike.upcoming.trans (upcoming_park _ task call))
  | answered task turn outcome answer found consulted progress alike =>
    exact others found (upcoming_congr alike.tasks)

/-- A request that becomes a task is one that asks for its call. -/
theorem upcoming_enlist {payload : Bytes} {id : RequestId} {feature : Engine.Feature}
    {params : Json}
    (decoded : Incoming.decode payload = .ok (.request id feature.method params))
    (phase : session.lifecycle.phase = .initialized) :
    (session.enlist id feature params).upcoming =
      session.upcoming ++ (Receipt.call? ⟨session, payload⟩).toList := by
  have hcall : Receipt.call? ⟨session, payload⟩ =
      (Dispatch.decode (.feature feature) params).toOption := by
    simp [Receipt.call?, decoded, MethodTable.route?_standard_feature, phase]
  unfold upcoming enlist
  rw [List.filterMap_append, hcall]
  cases hd : (Dispatch.decode (.feature feature) params).toOption <;>
    simp [Task.upcoming?, hd]

/-- Only tasks begin calls for features. -/
theorem begins?_of_ne {act : Act state} (h : ∀ ticket, act ≠ .work ticket) :
    session.begins? act = none := by
  cases act with
  | work ticket => exact absurd rfl (h ticket)
  | _ => rfl

/-- Every call for a feature that begins, or is still to begin, was asked for. -/
theorem Coherent.upcoming_perform (h : session.Coherent) (act : Act state) :
    (((session.begins? act).map Prod.fst).toList ++ (session.perform m act).upcoming).Subperm
      (session.upcoming ++ (session.received act).filterMap Receipt.call?) := by
  have performed : Performed m session act (session.perform m act) := perform_performed h act
  -- But for requests that become tasks and tasks that go on, the tasks stay.
  have stays {act : Act state} {after : Session state pending} (hb : session.begins? act = none)
      (hu : after.upcoming = session.upcoming) :
      (((session.begins? act).map Prod.fst).toList ++ after.upcoming).Subperm
        (session.upcoming ++ (session.received act).filterMap Receipt.call?) := by
    rw [hb, hu]
    exact (List.sublist_append_left _ _).subperm
  generalize session.perform m act = after at performed ⊢
  cases performed with
  | quiet unread kept other alike => exact stays (begins?_of_ne other) alike.upcoming
  | handled world payload lives idle hu =>
    cases hu with
    | ignored due alike => exact stays rfl alike.upcoming
    | cancelled id due alike => exact stays rfl (upcoming_congr alike.tasks)
    | answered id answer due alike => exact stays rfl (upcoming_congr alike.tasks)
    | enlisted id feature params decoded phase free due alike =>
      have hreads : session.reads = true := h.reads_eq_true_iff.mpr ⟨idle, lives⟩
      have hreceived : (session.received (.receive world payload : Act state)).filterMap
          Receipt.call? = (Receipt.call? ⟨session, payload⟩).toList := by
        simp only [received, hreads, if_true, List.filterMap_cons, List.filterMap_nil]
        cases Receipt.call? ⟨session, payload⟩ <;> rfl
      rw [alike.upcoming, upcoming_enlist decoded phase, hreceived]
      exact .refl _
    | @asked told duty next call due starts operation alike =>
      have begun := (h.begun lives idle starts alike).1
      exact stays rfl (upcoming_congr ((begun.asked duty call).tasks.1.trans alike.tasks))
  | resumed turn lives waits hc => exact stays rfl (upcoming_congr hc.tasks.1)
  | worked ticket hw =>
    rw [show session.received (.work ticket : Act state) = [] from rfl, List.filterMap_nil,
      List.append_nil]
    exact hw.upcoming h
  | stirred change => exact stays rfl rfl
  | taken => exact stays rfl rfl
  | dropped closed => exact stays rfl rfl
  | @ended act told ending turn unread kept other cut alike =>
    exact stays (begins?_of_ne other)
      (upcoming_congr ((tasks_terminate m told ending).1.trans alike.tasks))

/-- What a task is to call for is a feature. -/
theorem isFeature_of_upcoming? {task : Task pending} {call : Engine.Call}
    (h : task.upcoming? = some call) : isFeature call = true := by
  unfold Task.upcoming? at h
  split at h
  · next params hstage =>
    cases hd : Dispatch.decode (.feature task.feature) params with
    | error error =>
      rw [hd] at h
      exact absurd h (by simp [Except.toOption])
    | ok asked =>
      rw [hd] at h
      have hop := operation_of_decode hd
      rw [Option.some.inj h] at hop
      simp [isFeature, hop]
  · exact absurd h (by simp)

/-- A call that begins in a task is one for a feature. -/
theorem isFeature_of_begins? {act : Act state} {call : Engine.Call} {cancelled : Option Bool}
    (h : session.begins? act = some (call, cancelled)) : isFeature call = true := by
  cases act with
  | work ticket =>
    obtain ⟨task, -, htask⟩ := Option.bind_eq_some_iff.mp h
    obtain ⟨asked, hasked, heq⟩ := Option.map_eq_some_iff.mp htask
    have hsame : asked = call := congrArg Prod.fst heq
    exact hsame ▸ isFeature_of_upcoming? hasked
  | _ => exact absurd h (by simp [begins?])

end Tasks

/-! ## What the record gains -/

section Records

variable {m : Engine state pending} {session : Session (Recorded state) (Nat × pending)}

/-- What the engine was asked for so far: calls, and whether each was cancelled when
it began; nothing stands for the disposal. -/
def asks (session : Session (Recorded state) (Nat × pending)) :
    List (Option (Engine.Call × Option Bool)) :=
  session.record.map Entry.asked?

/-- The calls for features that began so far, in order. -/
def features (session : Session (Recorded state) (Nat × pending)) : List Engine.Call :=
  (session.asks.reduceOption.map Prod.fst).filter isFeature

/-- The disposal, if a session has ended meanwhile. -/
def disposals (before after : Session (Recorded state) (Nat × pending)) :
    List (Option (Engine.Call × Option Bool)) :=
  if before.hasEnded = false ∧ after.hasEnded = true then [none] else []

/-- With the same engine the same was asked for. -/
theorem asks_congr {other : Session (Recorded state) (Nat × pending)}
    (h : other.bridge.engine = session.bridge.engine) : other.asks = session.asks :=
  congrArg (fun recorded => List.map Entry.asked? (Recorded.record recorded)) h

/-- Nothing is disposed of where the end is as far as before. -/
theorem disposals_of_eq {after : Session (Recorded state) (Nat × pending)}
    (h : after.hasEnded = session.hasEnded) : disposals session after = [] := by
  unfold disposals
  rw [h]
  cases session.hasEnded <;> rfl

/-- The end disposes of the engine. -/
theorem Terminated.asks {ending : Ending} {after : Session (Recorded state) (Nat × pending)}
    (ht : Terminated m.recording session ending after) : after.asks = session.asks ++ [none] := by
  have hrecord : after.record = session.record ++ [.disposal] :=
    congrArg Recorded.record ht.engine
  unfold Session.asks
  rw [hrecord, List.map_append]
  rfl

/-- Going on with a message asks for nothing else, but for the disposal if the
session ends. -/
theorem Continued.asks {duty : Duty} {noted : List Entry} {number : Nat}
    {answer : state × Engine.Turn pending} {after : Session (Recorded state) (Nat × pending)}
    (hc : Continued m.recording session duty (noteTurn noted number answer) after)
    (h : session.Coherent) (fits : duty.FitsIn session.lifecycle.phase) :
    after.asks = noted.map Entry.asked? ++ disposals session after := by
  have lives : session.hasEnded = false := by simpa [hasEnded] using fits.ne_exited
  cases hc with
  | waits call progress alike =>
    have hasks : after.asks = noted.map Entry.asked? :=
      (asks_congr alike.engine).trans
        (congrArg (List.map Entry.asked?) (noteTurn_waiting progress).2)
    have hsame : after.hasEnded = session.hasEnded := alike.hasEnded
    rw [hasks, disposals_of_eq hsame, List.append_nil]
  | @ends told after outcome progress alike concluded =>
    have hasks : told.asks = noted.map Entry.asked? := by
      refine (asks_congr alike.engine).trans ?_
      rw [← map_asked?_modify noted number outcome, ← noteTurn_done progress]
      rfl
    have htold : told.hasEnded = session.hasEnded := alike.hasEnded
    cases concluded with
    | @answered last id said asker hlast =>
      have hsettled : (last.send (.response (some id) said)).hasEnded = session.hasEnded := by
        rw [hasEnded_send, hlast.hasEnded, lives]
        refine beq_false_of_ne (Coherent.settle_ne_exited ?_ outcome)
        rw [alike.lifecycle]
        exact fits
      rw [disposals_of_eq hsettled, List.append_nil, ← hasks]
      exact asks_congr hlast.engine
    | seen asker stays hlast =>
      rw [disposals_of_eq (hlast.hasEnded.trans htold), List.append_nil, ← hasks]
      exact asks_congr hlast.engine
    | @left last leaves hlast =>
      have lastCoherent := ((h.withEngine _).withoutTurn.alike alike).alike hlast
      have finished := lastCoherent.terminated m.recording
        ((hlast.hasEnded.trans htold).trans lives) .exit
      have hdisposals : disposals session (last.terminate m.recording .exit) = [none] :=
        if_pos ⟨lives, finished.hasEnded⟩
      rw [finished.asks, asks_congr hlast.engine, hasks, hdisposals]

/-- Asking the engine in a task asks for the call that it is to begin, if it is. -/
theorem Consulted.asks {task : Task (Nat × pending)} {noted : List Entry} {number : Nat}
    (hc : Consulted session task noted number) :
    noted.map Entry.asked? = session.asks ++ (task.upcoming?.toList.map fun call =>
      some (call, some (session.cancelledTask task))) := by
  cases hc with
  | begun params asked stage decoded =>
    have hupcoming : task.upcoming? = some asked := by
      simp [Task.upcoming?, stage, decoded, Except.toOption]
    rw [List.map_append, hupcoming]
    rfl
  | resumed call stage =>
    have hupcoming : task.upcoming? = none := by simp [Task.upcoming?, stage]
    rw [hupcoming]
    exact (List.append_nil _).symm

/-- A task that does not ask the engine has no call to begin. -/
theorem upcoming?_of_consult {m : Engine state pending} {session : Session state pending}
    {task : Task pending} (h : session.consult m task = none) : task.upcoming? = none := by
  cases hstage : task.stage with
  | spawned params =>
    simp only [consult, hstage] at h
    simp only [Task.upcoming?, hstage]
    exact Option.map_eq_none_iff.mp h
  | waiting call => simp [Task.upcoming?, hstage]

/-- Going on with a task asks for the call that it begins, if it does. -/
theorem Worked.asks {ticket : Nat} {after : Session (Recorded state) (Nat × pending)}
    (hw : Worked m.recording session ticket after) :
    after.asks = session.asks ++
        ((session.begins? (.work ticket : Act (Recorded state))).toList.map some) ∧
      after.hasEnded = session.hasEnded := by
  have begun {task : Task (Nat × pending)} (found : session.task? ticket = some task) :
      (session.begins? (.work ticket : Act (Recorded state))).toList.map some =
        task.upcoming?.toList.map fun call => some (call, some (session.cancelledTask task)) := by
    simp only [begins?, found, Option.bind_some]
    cases task.upcoming? <;> rfl
  cases hw with
  | absent missing =>
    simp [begins?, missing]
  | refused task answer found consulted alike =>
    rw [begun found, upcoming?_of_consult consulted]
    exact ⟨(asks_congr alike.engine).trans (List.append_nil _).symm, alike.hasEnded⟩
  | parked task turn call found consulted progress alike =>
    obtain ⟨noted, number, answer, hconsulted, rfl⟩ := consulted_of_consult consulted
    rw [begun found, ← hconsulted.asks]
    exact ⟨(asks_congr alike.engine).trans
      (congrArg (List.map Entry.asked?) (noteTurn_waiting progress).2), alike.hasEnded⟩
  | answered task turn outcome answer found consulted progress alike =>
    obtain ⟨noted, number, said, hconsulted, rfl⟩ := consulted_of_consult consulted
    rw [begun found, ← hconsulted.asks, ← map_asked?_modify noted number outcome,
      ← noteTurn_done progress]
    exact ⟨asks_congr alike.engine, alike.hasEnded⟩

/-- What is asked for in an act: calls that begin in tasks, calls of messages that are
handled in their turn, which are not for features and come only before the end,
and the disposal if the session ends. -/
def Gains (before after : Session (Recorded state) (Nat × pending))
    (begun : List (Engine.Call × Option Bool)) : Prop :=
  ∃ inline : List Engine.Call, (∀ call ∈ inline, isFeature call = false) ∧
    (before.hasEnded = true → inline = []) ∧
    after.asks = before.asks ++ begun.map some ++ inline.map (fun call => some (call, none)) ++
      disposals before after

/-- Where no message is handled, tasks begin calls, and the session may end. -/
theorem Gains.of_asks {after : Session (Recorded state) (Nat × pending)}
    {begun : List (Engine.Call × Option Bool)}
    (h : after.asks = session.asks ++ begun.map some ++ disposals session after) :
    Gains session after begun := by
  refine ⟨[], fun _ hc => absurd hc List.not_mem_nil, fun _ => rfl, ?_⟩
  rw [h, List.map_nil, List.append_nil]

/-- Nothing is asked for where the record and the end are as before. -/
theorem Gains.still {after : Session (Recorded state) (Nat × pending)}
    (ha : after.asks = session.asks) (he : after.hasEnded = session.hasEnded) :
    Gains session after [] := by
  refine .of_asks ?_
  rw [ha, disposals_of_eq he, List.map_nil, List.append_nil, List.append_nil]

/-- Nothing is asked for in sessions that are alike. -/
theorem Alike.gains {told : Session (Recorded state) (Nat × pending)} (h : session.Alike told) :
    Gains session told [] :=
  .still (asks_congr h.engine) h.hasEnded

/-- A message that is handled asks for one call at most, and not for one for a feature. -/
theorem Upshot.gains {payload : Bytes} {after : Session (Recorded state) (Nat × pending)}
    (hu : Upshot m.recording session payload after) (h : session.Coherent)
    (lives : session.hasEnded = false) (idle : session.turn = none) :
    Gains session after [] := by
  cases hu with
  | ignored due alike => exact alike.gains
  | cancelled id due alike => exact .still (asks_congr alike.engine) alike.hasEnded
  | answered id answer due alike => exact .still (asks_congr alike.engine) alike.hasEnded
  | enlisted id feature params decoded phase free due alike =>
    exact .still (asks_congr alike.engine) alike.hasEnded
  | @asked told duty next call due starts operation alike =>
    obtain ⟨begun, fits⟩ := h.begun lives idle starts alike
    have continued : Continued m.recording told duty
        (noteTurn (told.record ++ [.call call none none]) told.record.length
          (m.begin call none told.bridge.engine.engine)) (told.ask m.recording duty call).2 :=
      begun.asked duty call
    have htold : told.asks = session.asks := asks_congr alike.engine
    have hlives : told.hasEnded = session.hasEnded := by
      rw [lives]
      exact beq_false_of_ne fits.ne_exited
    have hdisposals (after : Session (Recorded state) (Nat × pending)) :
        disposals told after = disposals session after := by
      unfold disposals
      rw [hlives]
    refine ⟨[call], fun other hc => ?_, fun ended => absurd (lives.symm.trans ended) (by simp), ?_⟩
    · rw [List.mem_singleton.mp hc, isFeature, operation]
      cases duty <;> rfl
    · rw [continued.asks begun fits, hdisposals, ← htold, List.map_append]
      simp [Session.asks, Entry.asked?]

/-- The end asks for the disposal, unless it has come before. -/
theorem Coherent.gains_terminate {told : Session (Recorded state) (Nat × pending)}
    (h : told.Coherent) (lifecycle : told.lifecycle = session.lifecycle)
    (engine : told.bridge.engine = session.bridge.engine) (ending : Ending) :
    Gains session (told.terminate m.recording ending) [] := by
  have hsame : told.hasEnded = session.hasEnded := by
    unfold hasEnded
    rw [lifecycle]
  cases hs : session.hasEnded with
  | true =>
    have hexited : told.lifecycle.phase = .exited := by simpa [hasEnded] using hsame.trans hs
    rw [terminate_of_exited m.recording told ending hexited]
    exact .still (asks_congr engine) hsame
  | false =>
    have finished := h.terminated m.recording (hsame.trans hs) ending
    have hdisposals : disposals session (told.terminate m.recording ending) = [none] :=
      if_pos ⟨hs, finished.hasEnded⟩
    refine .of_asks ?_
    rw [finished.asks, asks_congr engine, hdisposals, List.map_nil, List.append_nil]

/-- What an act asks for, the calls that begin in tasks being given. -/
theorem Coherent.asks_perform (h : session.Coherent) (act : Act state) :
    Gains session (session.perform m.recording act.recorded)
      (session.begins? act.recorded).toList := by
  have performed := perform_performed (m := m.recording) h act.recorded
  generalize hact : act.recorded = done at performed ⊢
  generalize session.perform m.recording done = after at performed ⊢
  cases performed with
  | quiet unread kept other alike =>
    rw [begins?_of_ne other]
    exact alike.gains
  | handled world payload lives idle hu => exact hu.gains h lives idle
  | resumed turn lives waits hc =>
    have resumed : Continued m.recording session turn.duty
        (noteTurn session.record turn.call.1
          (m.resume turn.call.2 none session.bridge.engine.engine)) after := hc
    refine .of_asks ?_
    rw [resumed.asks h (h.fits lives waits)]
    simp [begins?, Session.asks]
  | worked ticket hw =>
    obtain ⟨hasks, hends⟩ := hw.asks
    refine .of_asks ?_
    rw [hasks, disposals_of_eq hends, List.append_nil]
  | stirred change =>
    cases act <;> simp only [Act.recorded, Act.stir.injEq, reduceCtorEq] at hact
    subst hact
    exact .still rfl rfl
  | taken => exact .still rfl rfl
  | dropped closed => exact .still rfl rfl
  | ended ending turn unread kept other cut alike =>
    rw [begins?_of_ne other]
    exact ((h.cut cut).alike alike).gains_terminate alike.lifecycle alike.engine ending

/-- The only calls for features that an act begins are those of tasks. -/
theorem Coherent.features_perform (h : session.Coherent) (act : Act state) :
    (session.perform m.recording act.recorded).features =
      session.features ++ ((session.begins? act.recorded).map Prod.fst).toList := by
  obtain ⟨inline, hinline, -, hasks⟩ := h.asks_perform (m := m) act
  have disposed {before after : Session (Recorded state) (Nat × pending)} :
      (disposals before after).reduceOption = [] := by
    unfold disposals
    split <;> rfl
  have nothing : (((inline.map fun call => some (call, (none : Option Bool))).reduceOption.map
      Prod.fst).filter isFeature) = [] := by
    refine List.filter_eq_nil_iff.mpr fun call hc => ?_
    simp only [List.reduceOption, List.filterMap_map, List.mem_map, List.mem_filterMap] at hc
    obtain ⟨ask, ⟨other, ho, hask⟩, rfl⟩ := hc
    rw [← Option.some.inj hask, hinline other ho]
    exact Bool.false_ne_true
  unfold features
  rw [hasks]
  simp only [List.reduceOption_append, List.map_append, List.filter_append, disposed, nothing,
    List.append_nil]
  congr 1
  cases hb : session.begins? act.recorded with
  | none => rfl
  | some ask =>
    have hfeature : isFeature ask.1 = true := isFeature_of_begins? hb
    simp [List.reduceOption, hfeature]

end Records

end LspGateway.Session
