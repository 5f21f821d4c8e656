import LspGateway.Engine.Bare
import LspGateway.Proofs.Session.Discipline
import Mathlib.Data.List.TakeWhile

/-!
# Calls after the teardown

The end of a session disposes of the engine and leaves the tasks. A task whose
call has not begun by then begins it when it goes on for the first time, though
the engine was disposed of; the call is told that it is cancelled. Nothing else is
asked of the engine after the disposal, so these tasks are exactly what is to be
kept from going on, if nothing is to be called by then.
-/

namespace LspGateway

namespace Session

open Engine

variable {state pending : Type}

/-- What comes after the first gap. -/
def afterGap {α : Type} (items : List (Option α)) : List α :=
  (items.dropWhile Option.isSome).reduceOption

/-- Nothing comes after the first gap where there is none. -/
theorem afterGap_of_notMem {α : Type} {items : List (Option α)} (h : none ∉ items) :
    afterGap items = [] := by
  have hall : ∀ item ∈ items, item.isSome = true := fun item hi =>
    Option.isSome_iff_ne_none.mpr fun hnone => h (hnone ▸ hi)
  unfold afterGap
  rw [List.dropWhile_eq_nil_iff.mpr hall]
  rfl

/-- Before the first gap nothing counts. -/
theorem afterGap_append_of_notMem {α : Type} {items : List (Option α)} (h : none ∉ items)
    (more : List (Option α)) : afterGap (items ++ more) = afterGap more := by
  unfold afterGap
  rw [List.dropWhile_append_of_pos]
  intro item hi
  exact Option.isSome_iff_ne_none.mpr fun hnone => h (hnone ▸ hi)

/-- After the first gap everything counts. -/
theorem afterGap_append_of_mem {α : Type} {items : List (Option α)} (h : none ∈ items)
    (more : List (Option α)) : afterGap (items ++ more) = afterGap items ++ more.reduceOption := by
  have hgap : (items.dropWhile Option.isSome).isEmpty = false := by
    rw [Bool.eq_false_iff, ne_eq, List.isEmpty_iff, List.dropWhile_eq_nil_iff]
    exact fun hall => absurd (hall none h) (by simp)
  unfold afterGap
  rw [List.dropWhile_append, hgap, if_neg Bool.false_ne_true, List.reduceOption_append]

/-- The calls that began after the disposal, in order, and whether each was cancelled
when it began. -/
def calledAfterDisposal (session : Session (Recorded state) (Nat × pending)) :
    List (Engine.Call × Option Bool) :=
  afterGap session.asks

section Steps

variable {m : Engine state pending} {session : Session (Recorded state) (Nat × pending)}

/-- The engine is disposed of exactly at the end, and after it calls begin in tasks
only. -/
theorem Coherent.calledAfterDisposal_perform (h : session.Coherent)
    (disposed : none ∈ session.asks ↔ session.hasEnded = true) (act : Act state) :
    (none ∈ (session.perform m.recording act.recorded).asks ↔
      (session.perform m.recording act.recorded).hasEnded = true) ∧
    (session.perform m.recording act.recorded).calledAfterDisposal =
      session.calledAfterDisposal ++
        if session.hasEnded then (session.begins? act.recorded).toList else [] := by
  obtain ⟨inline, -, hended, hasks⟩ := h.asks_perform (m := m) act
  unfold calledAfterDisposal
  cases hs : session.hasEnded with
  | true =>
    have hmem := disposed.mpr hs
    have hlater := (h.perform_of_ended (m := m.recording) hs act.recorded).1
    have hdisposals := disposals_of_eq (hlater.trans hs.symm)
    rw [hended hs, hdisposals, List.map_nil, List.append_nil, List.append_nil] at hasks
    rw [hasks]
    refine ⟨⟨fun _ => hlater, fun _ => List.mem_append_left _ hmem⟩, ?_⟩
    rw [afterGap_append_of_mem hmem, if_pos rfl]
    simp [List.reduceOption]
  | false =>
    have hnone : none ∉ session.asks ++ (session.begins? act.recorded).toList.map some ++
        inline.map fun call => some (call, none) := by
      simp [disposed, hs]
    rw [hasks, afterGap_append_of_notMem hnone, if_neg Bool.false_ne_true, List.append_nil,
      afterGap_of_notMem (mt disposed.mp (by simp [hs])), List.mem_append, or_iff_right hnone]
    unfold disposals
    rw [hs]
    cases (session.perform m.recording act.recorded).hasEnded with
    | true => exact ⟨by simp, rfl⟩
    | false => exact ⟨by simp, rfl⟩

/-- A task that goes on begins its call if its parameters fit and it has none yet;
after the end the call is cancelled. -/
theorem Coherent.begins?_eq_some_iff (h : session.Coherent) (ended : session.hasEnded = true)
    {ticket : Nat} {call : Engine.Call} {cancelled : Option Bool} :
    session.begins? (.work ticket : Act (Recorded state)) = some (call, cancelled) ↔
      cancelled = some true ∧
        ∃ task ∈ session.tasks, task.ticket = ticket ∧ task.upcoming? = some call := by
  have told {task : Task (Nat × pending)} (ht : task ∈ session.tasks) :
      session.cancelledTask task = true :=
    h.agreement.isCancelled (h.cancelled.trans ended) ht
  simp only [begins?, Option.bind_eq_some_iff, Option.map_eq_some_iff, Prod.mk.injEq]
  constructor
  · rintro ⟨task, found, asked, hasked, rfl, hcancelled⟩
    obtain ⟨hmem, hticket⟩ := mem_of_task? found
    rw [told hmem] at hcancelled
    exact ⟨hcancelled.symm, task, hmem, hticket, hasked⟩
  · rintro ⟨rfl, task, hmem, rfl, hasked⟩
    exact ⟨task, h.task?_of_mem hmem, call, hasked, rfl, by rw [told hmem]⟩

end Steps

end Session

namespace Chronicle

open Engine

variable {state pending : Type}

/-! ## Runs -/

/-- The calls that begin after the end, while acts follow each other. -/
def strays (m : Engine state pending) :
    Chronicle (Recorded state) (Nat × pending) → List (Session.Act state) →
      List (Engine.Call × Option Bool)
  | _, [] => []
  | chronicle, act :: rest =>
    (if chronicle.session.hasEnded then (chronicle.session.begins? act.recorded).toList else []) ++
      strays m (chronicle.perform m.recording act.recorded) rest

section Runs

variable {m : Engine state pending} {chronicle : Chronicle (Recorded state) (Nat × pending)}

/-- The calls after the disposal are those that begin after the end. -/
theorem calledAfterDisposal_run (coherent : chronicle.session.Coherent)
    (disposed : none ∈ chronicle.session.asks ↔ chronicle.session.hasEnded = true)
    (acts : List (Session.Act state)) :
    (none ∈ (chronicle.run m.recording (acts.map Session.Act.recorded)).session.asks ↔
      (chronicle.run m.recording (acts.map Session.Act.recorded)).session.hasEnded = true) ∧
    (chronicle.run m.recording (acts.map Session.Act.recorded)).session.calledAfterDisposal =
      chronicle.session.calledAfterDisposal ++ strays m chronicle acts := by
  induction acts generalizing chronicle with
  | nil => exact ⟨disposed, (List.append_nil _).symm⟩
  | cons act rest ih =>
    obtain ⟨still, gained⟩ := coherent.calledAfterDisposal_perform (m := m) disposed act
    obtain ⟨last, others⟩ :=
      @ih (chronicle.perform m.recording act.recorded) (coherent.perform _) still
    refine ⟨last, others.trans ?_⟩
    rw [strays, ← List.append_assoc]
    exact congrArg (· ++ _) gained

/-- A call begins after the end where an act begins it. -/
theorem mem_strays_iff {acts : List (Session.Act state)} {ask : Engine.Call × Option Bool} :
    ask ∈ strays m chronicle acts ↔ ∃ earlier act later, acts = earlier ++ act :: later ∧
      (chronicle.run m.recording (earlier.map Session.Act.recorded)).session.hasEnded = true ∧
      (chronicle.run m.recording (earlier.map Session.Act.recorded)).session.begins?
        act.recorded = some ask := by
  induction acts generalizing chronicle with
  | nil => simp [strays]
  | cons act rest ih =>
    rw [strays, List.mem_append, ih]
    constructor
    · rintro (here | ⟨earlier, later, others, rfl, ended, begun⟩)
      · split at here
        · next ended => exact ⟨[], act, rest, rfl, ended, Option.mem_toList.mp here⟩
        · exact absurd here List.not_mem_nil
      · exact ⟨act :: earlier, later, others, rfl, ended, begun⟩
    · rintro ⟨earlier, other, later, hacts, ended, begun⟩
      cases earlier with
      | nil =>
        obtain ⟨rfl, rfl⟩ := List.cons.inj hacts
        have now : chronicle.session.hasEnded = true := ended
        rw [if_pos now]
        exact .inl (Option.mem_toList.mpr begun)
      | cons first earlier =>
        obtain ⟨rfl, rfl⟩ := List.cons.inj hacts
        exact .inr ⟨earlier, other, later, rfl, ended, begun⟩

end Runs

/-- In every run the engine is disposed of exactly at the end of the session. After the
disposal calls begin in the tasks whose calls have not begun by then, when they go on for
the first time: these calls are for features, and cancelled. No other call begins. -/
theorem called_after_disposal (m : Engine state pending) (engine : state)
    (config : SessionConfig) (acts : List (Session.Act state)) :
    (none ∈ (recorded m engine config acts).session.asks ↔
      (recorded m engine config acts).session.hasEnded = true) ∧
    ∀ call cancelled,
      (call, cancelled) ∈ (recorded m engine config acts).session.calledAfterDisposal ↔
        Session.isFeature call = true ∧ cancelled = some true ∧
        ∃ earlier ticket later, acts = earlier ++ .work ticket :: later ∧
          (recorded m engine config earlier).session.hasEnded = true ∧
          ∃ task ∈ (recorded m engine config earlier).session.tasks,
            task.ticket = ticket ∧ task.upcoming? = some call := by
  have nobody : none ∈ (start ⟨engine, []⟩ config :
      Chronicle (Recorded state) (Nat × pending)).session.asks ↔
      (start ⟨engine, []⟩ config :
        Chronicle (Recorded state) (Nat × pending)).session.hasEnded = true :=
    ⟨fun h => absurd h List.not_mem_nil, fun h => absurd h Bool.false_ne_true⟩
  obtain ⟨disposed, called⟩ :=
    calledAfterDisposal_run (m := m) (.create (⟨engine, []⟩ : Recorded state) config) nobody acts
  have fresh : (start ⟨engine, []⟩ config :
      Chronicle (Recorded state) (Nat × pending)).session.calledAfterDisposal = [] := rfl
  rw [fresh, List.nil_append] at called
  refine ⟨disposed, fun call cancelled => ?_⟩
  have coherent (earlier : List (Session.Act state)) :
      (recorded m engine config earlier).session.Coherent :=
    coherent_run_start m.recording ⟨engine, []⟩ config (earlier.map Session.Act.recorded)
  rw [recorded, called, mem_strays_iff]
  constructor
  · rintro ⟨earlier, act, later, rfl, ended, begun⟩
    have hfeature := Session.isFeature_of_begins? begun
    cases act with
    | work ticket =>
      obtain ⟨hcancelled, task, hmem, hticket, hcall⟩ :=
        ((coherent earlier).begins?_eq_some_iff ended).mp begun
      exact ⟨hfeature, hcancelled, earlier, ticket, later, rfl, ended, task, hmem, hticket, hcall⟩
    | _ => exact absurd begun (by simp [Session.Act.recorded, Session.begins?])
  · rintro ⟨-, hcancelled, earlier, ticket, later, rfl, ended, hrest⟩
    exact ⟨earlier, .work ticket, later, rfl, ended,
      ((coherent earlier).begins?_eq_some_iff ended).mpr ⟨hcancelled, hrest⟩⟩

set_option maxRecDepth 2000 in
/-- A hover request that is received before the exit, and whose task goes on only after
it, has its call begin after the disposal. -/
theorem hover_called_after_exit :
    let chronicle := recorded Engine.bare () ⟨2000, 1000⟩ (Sample.handshake ++
      [Sample.hover "1", Sample.receive (Sample.notification "exit"), .work 0])
    chronicle.session.hasEnded = true ∧ none ∈ chronicle.session.asks ∧
      chronicle.session.calledAfterDisposal.map (fun ask => (ask.1.operation, ask.2)) =
        [(.feature .hover, some true)] := by
  have ended : (recorded Engine.bare () ⟨2000, 1000⟩ (Sample.handshake ++
      [Sample.hover "1", Sample.receive (Sample.notification "exit"),
        .work 0])).session.hasEnded = true := by
    decide +kernel
  refine ⟨ended, (called_after_disposal Engine.bare () ⟨2000, 1000⟩ _).1.mpr ended, ?_⟩
  decide +kernel

end Chronicle

end LspGateway
